/-
A database file that was opened is opened again at the same place.

Opening walks the path of the database with the intent to create a file
and leaves a file where the walk ends. Between two openings a tree only
grows by directories and files and has bytes of files replaced: no
directory and no link is changed, and what was a file is one still
(`Kept`). A walk that ended at a file therefore ends at it again
(`walk_kept`): on its way it meets the same directories and links, and
what it had met as missing or as a file it did not pass.

A database in memory has no such path. It is a new one every time
(`openDatabase_memory`).
-/
import FileDepot.Depot.Site
import FileDepot.Proofs.Chain
import FileDepot.Proofs.Growth

namespace FileDepot

namespace FileTree

variable {tree tree' tree'' : FileTree} {path : String} {place : Place}

-- ============================================================== kept

/-- A tree is kept by another: directories and links stand as they were,
and files are still files. -/
structure Kept (tree tree' : FileTree) : Prop where
  workdir : tree'.workdir = tree.workdir
  directory : ∀ {place : Place}, tree.node? place = some .directory →
    tree'.node? place = some .directory
  link : ∀ {place : Place} {target : String},
    tree.node? place = some (.link target) →
      tree'.node? place = some (.link target)
  file : ∀ {place : Place} {content : Bytes},
    tree.node? place = some (.file content) →
      ∃ content', tree'.node? place = some (.file content')

namespace Kept

theorem refl (tree : FileTree) : Kept tree tree where
  workdir := rfl
  directory := id
  link := id
  file := fun hn => ⟨_, hn⟩

theorem trans (h : Kept tree tree') (h' : Kept tree' tree'') :
    Kept tree tree'' where
  workdir := h'.workdir.trans h.workdir
  directory := fun hn => h'.directory (h.directory hn)
  link := fun hn => h'.link (h.link hn)
  file := by
    intro place content hn
    obtain ⟨_, hn'⟩ := h.file hn
    exact h'.file hn'

/-- A tree that grew by directories is kept. -/
theorem of_grown {paths : List String} (h : Grown paths tree tree') :
    Kept tree tree' where
  workdir := h.workdir
  directory := h.kept
  link := h.kept
  file := fun hn => ⟨_, h.kept hn⟩

/-- Putting a file where something can be put keeps the tree. -/
theorem set (hp : tree.Accepts place) (content : Bytes) :
    Kept tree (tree.set place (.file content)) := by
  have hpass : ∀ {other : Place} {node : Node},
      tree.node? other = some node →
      (node = .directory ∨ ∃ target, node = .link target) →
        (tree.set place (.file content)).node? other = some node := by
    intro other node hn hnode
    rw [node?_set_of_ne, hn]
    rintro rfl
    exact hp.not_passed hn hnode
  refine ⟨rfl, fun hn => hpass hn (.inl rfl),
    fun hn => hpass hn (.inr ⟨_, rfl⟩), fun {other old} hn => ?_⟩
  by_cases hsame : other = place
  · rw [hsame]
    exact ⟨content, node?_set_self hp.1 _⟩
  · rw [node?_set_of_ne hsame]
    exact ⟨old, hn⟩

/-- Writing a file keeps the tree. -/
theorem write {content : Bytes} (h : tree.write path content = .ok tree') :
    Kept tree tree' := by
  obtain ⟨spot, hspot, rfl⟩ := write_ok h
  obtain ⟨_, _, -, hend⟩ := ends_of_walk (.file content) hspot
  exact .set hend.accepts content

end Kept

-- ===================================================== the same walk

section

variable {content : Bytes} (hkept : Kept tree tree')
  (hfile : tree'.node? place = some (.file content))

include hkept hfile

/-- The last step of a walk to create a file ends where it did, if a
file is there. -/
theorem arrive_kept {onLink onLink' : OnLink} {here : Place}
    {part : String} {slashed : Bool} {spot : Spot}
    (hlink : ∀ {here target rest spot},
      onLink here target rest = .ok spot → spot.place = place →
        onLink' here target rest = .ok (.found place (.file content)))
    (h : tree.arrive .createFile onLink here part slashed = .ok spot)
    (hs : spot.place = place) :
    tree'.arrive .createFile onLink' here part slashed
      = .ok (.found place (.file content)) := by
  obtain ⟨⟨hdots, rfl, hlong⟩, hend | ⟨target, hn, hl⟩⟩ :=
    arrive_createFile h
  · obtain rfl : place = here ++ [part] := hs.symm.trans hend.place_eq
    unfold arrive
    simp [hdots, hlong, hfile]
  · unfold arrive
    simp [hdots, hlong, hkept.link hn, hlink hl hs]

/-- A walk to create a file ends where it did, if the walks through
links do. -/
theorem walkParts_kept {onLink onLink' : OnLink} {parts : List String}
    {here : Place} {spot : Spot} (hne : parts ≠ [])
    (hlink : ∀ {here target rest spot},
      onLink here target rest = .ok spot → spot.place = place →
        onLink' here target rest = .ok (.found place (.file content)))
    (h : tree.walkParts .createFile onLink here parts = .ok spot)
    (hs : spot.place = place) :
    tree'.walkParts .createFile onLink' here parts
      = .ok (.found place (.file content)) := by
  induction parts generalizing here with
  | nil => exact absurd rfl hne
  | cons part rest ih =>
    apply walkParts_of_starts
    cases starts_of_walkParts h with
    | last slashed hrest h =>
      exact .last slashed hrest (arrive_kept hkept hfile hlink h hs)
    | dots hne hend hdots h => exact .dots hne hend hdots (ih hne h)
    | directory hne hend hdots hlong hn h =>
      exact .directory hne hend hdots hlong (hkept.directory hn) (ih hne h)
    | link hne hend hdots hlong target hn h =>
      exact .link hne hend hdots hlong target (hkept.link hn) (hlink h hs)

theorem walkLinks_kept {links : Nat} {parts : List String} {here : Place}
    {spot : Spot} (hne : parts ≠ [])
    (h : tree.walkLinks .createFile links here parts = .ok spot)
    (hs : spot.place = place) :
    tree'.walkLinks .createFile links here parts
      = .ok (.found place (.file content)) := by
  induction links generalizing here parts spot with
  | zero =>
    rw [walkLinks] at h ⊢
    exact walkParts_kept hkept hfile hne (fun hl => by cases hl) h hs
  | succ links ih =>
    rw [walkLinks] at h ⊢
    refine walkParts_kept hkept hfile hne
      (fun {_ target rest _} hl hpl => ?_) h hs
    split at hl
    · cases hl
    · next htarget =>
      rw [if_neg htarget]
      exact ih (splice_ne_nil target rest) hl hpl

/-- A walk to create a file ends where it did, if a file is there. -/
theorem walk_kept {spot : Spot}
    (h : tree.walk .createFile path = .ok spot) (hs : spot.place = place) :
    tree'.walk .createFile path = .ok (.found place (.file content)) := by
  obtain ⟨hlinks, hwalk⟩ := walk_ok h tree' hkept.workdir .createFile
  rw [hwalk]
  exact walkLinks_kept hkept hfile (Path.parts_ne_nil path) hlinks hs

end

end FileTree

-- ========================================================= databases

namespace Site

variable {s s' : Site} {path : String} {place : Place}

theorem find?_setDatabase_self (r : Residence) (db : Database)
    (databases : List (Residence × Database)) :
    (setDatabase r db databases).find? (fun entry => entry.1 == r)
      = some (r, db) := by
  induction databases with
  | nil => simp [setDatabase]
  | cons entry rest ih =>
    obtain ⟨q, d⟩ := entry
    unfold setDatabase
    by_cases h : q = r
    · simp [h]
    · rw [if_neg h, List.find?_cons_of_neg (by simpa using h), ih]

/-- The database that was put into a residence is there. -/
theorem database?_keep_self (s : Site) (r : Residence) (db : Database) :
    (s.keep r db).database? r = some db := by
  unfold database? keep
  rw [find?_setDatabase_self]
  rfl

/-- The database of a path stands at a place: its path leads to a file
there that is known as a database. -/
structure Stands (path : String) (place : Place) (s : Site) : Prop where
  file : ∃ text create content, Address.target path = .ok (.file text create)
    ∧ s.files.walk .createFile text = .ok (.found place (.file content))
  known : ∃ db, s.database? (.file place) = some db

/-- A database stands on, whatever is played on it, as long as the tree
is kept. -/
theorem Stands.absorb (h : s.Stands path place) {scene : Scene}
    (hkept : FileTree.Kept s.files scene.files) :
    (s.absorb (.file place) scene).Stands path place := by
  obtain ⟨text, create, content, htarget, hwalk⟩ := h.file
  obtain ⟨_, _, -, hend⟩ := FileTree.ends_of_walk (.file content) hwalk
  have hn : s.files.node? place = some (.file content) := by
    cases hend with
    | file _ hn => exact hn
  obtain ⟨content', hn'⟩ := hkept.file hn
  exact ⟨⟨text, create, content', htarget,
      FileTree.walk_kept hkept hn' hwalk rfl⟩,
    scene.database, database?_keep_self _ _ _⟩

end Site

end FileDepot
