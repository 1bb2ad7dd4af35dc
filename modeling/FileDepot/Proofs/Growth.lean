/-
Trees that grow by directories.

A tree in which everything stands in a directory (`Grounded`) grows when
directories are made: each comes at a place that was free and where the
path it was made under leads (`grown_makeDirectory`). Growing adds up,
and whatever a path led to it still leads to (`walk_grown`), because a
walk that ended at something has met nothing that was missing.
-/
import FileDepot.Proofs.FileTree

namespace FileDepot

namespace FileTree

variable {tree tree' tree'' : FileTree} {path : String}

-- ========================================================== grounded

/-- Everything stands in a directory, and relative paths start from
one. -/
structure Grounded (tree : FileTree) : Prop where
  workdir : tree.node? tree.workdir = some .directory
  parent : ∀ {place : Place} {name : String} {node : Node},
    tree.node? (place ++ [name]) = some node →
      tree.node? place = some .directory

namespace Grounded

/-- Walks come through directories. -/
theorem visited (h : tree.Grounded) {here : Place}
    (hv : tree.Visited here) : tree.node? here = some .directory := by
  induction hv with
  | root => rfl
  | workdir => exact h.workdir
  | entry hn => exact hn
  | dots part _ ih =>
      unfold afterDots
      split
      · rename_i here _ _
        rcases List.eq_nil_or_concat here with rfl | ⟨up, name, rfl⟩
        · rfl
        · rw [List.concat_eq_append] at ih ⊢
          rw [List.dropLast_concat]
          exact h.parent ih
      · exact ih

/-- Something can be put in a directory, at a place that accepts it. -/
theorem set (h : tree.Grounded) {here : Place} {name : String}
    (hhere : tree.node? here = some .directory)
    (hp : tree.Accepts (here ++ [name])) (node : Node) :
    (tree.set (here ++ [name]) node).Grounded := by
  have hdirectory : ∀ {place : Place},
      tree.node? place = some .directory →
        (tree.set (here ++ [name]) node).node? place
          = some .directory := by
    intro place hplace
    rw [node?_set_of_ne, hplace]
    rintro rfl
    exact hp.not_passed hplace (.inl rfl)
  refine ⟨hdirectory h.workdir, fun {place part met} hn => ?_⟩
  by_cases hsame : place ++ [part] = here ++ [name]
  · obtain ⟨rfl, -⟩ := List.append_inj' hsame rfl
    exact hdirectory hhere
  · rw [node?_set_of_ne hsame] at hn
    exact hdirectory (h.parent hn)

/-- What is made is put in a directory. -/
theorem made (h : tree.Grounded) {intent : Intent} {node : Node}
    (hm : Makes intent node) {spot : Spot}
    (hw : tree.walk intent path = .ok spot) :
    (tree.set spot.place node).Grounded := by
  obtain ⟨here, name, hvisited, hend⟩ := ends_of_walk hm hw
  have hp := hend.accepts
  rw [hend.place_eq] at hp ⊢
  exact h.set (h.visited hvisited) hp node

theorem write (h : tree.Grounded) {content : Bytes}
    (hw : tree.write path content = .ok tree') : tree'.Grounded := by
  obtain ⟨spot, hspot, rfl⟩ := write_ok hw
  exact h.made (.file content) hspot

theorem makeDirectory (h : tree.Grounded)
    (hmake : tree.makeDirectory path = .ok tree') : tree'.Grounded := by
  obtain ⟨_, _, hspot, -, rfl⟩ := makeDirectory_ok hmake
  exact h.made .directory hspot

end Grounded

-- ============================================================= grown

/-- A tree with some more directories, at places that were free and
where one of some paths leads. -/
structure Grown (paths : List String) (tree tree' : FileTree) : Prop where
  workdir : tree'.workdir = tree.workdir
  kept : ∀ {place : Place} {node : Node},
    tree.node? place = some node → tree'.node? place = some node
  added : ∀ {place : Place} {node : Node}, tree.node? place = none →
    tree'.node? place = some node →
      node = .directory
        ∧ ∃ path ∈ paths, tree'.locate path = .ok (place, .directory)
  grounded : tree.Grounded → tree'.Grounded

/-- The last step of a walk that follows finds as much in a tree that
has grown. -/
theorem arrive_grown {paths : List String} (hgrown : Grown paths tree tree')
    {onLink onLink' : OnLink} {here : Place} {part : String}
    {slashed : Bool} {spot : Spot}
    (hlink : ∀ {here target rest spot},
      onLink here target rest = .ok spot →
        onLink' here target rest = .ok spot)
    (h : tree.arrive .follow onLink here part slashed = .ok spot) :
    tree'.arrive .follow onLink' here part slashed = .ok spot := by
  apply arrive_of_follows
  cases follows_of_arrive h with
  | dots hdots => exact .dots hdots
  | directory hdots hlong hn =>
      exact .directory hdots hlong (hgrown.kept hn)
  | file hdots hlong content hn hslashed =>
      exact .file hdots hlong content (hgrown.kept hn) hslashed
  | link hdots hlong target hn h =>
      exact .link hdots hlong target (hgrown.kept hn) (hlink h)

/-- A walk that follows finds as much in a tree that has grown, if the
walks through links do. -/
theorem walkParts_grown {paths : List String}
    (hgrown : Grown paths tree tree') {onLink onLink' : OnLink}
    {parts : List String} {here : Place} {spot : Spot}
    (hlink : ∀ {here target rest spot},
      onLink here target rest = .ok spot →
        onLink' here target rest = .ok spot)
    (h : tree.walkParts .follow onLink here parts = .ok spot) :
    tree'.walkParts .follow onLink' here parts = .ok spot := by
  induction parts generalizing here with
  | nil => exact h
  | cons part rest ih =>
      apply walkParts_of_starts
      cases starts_of_walkParts h with
      | last slashed hrest h =>
          exact .last slashed hrest (arrive_grown hgrown hlink h)
      | dots hne hend hdots h => exact .dots hne hend hdots (ih h)
      | directory hne hend hdots hlong hn h =>
          exact .directory hne hend hdots hlong (hgrown.kept hn) (ih h)
      | link hne hend hdots hlong target hn h =>
          exact .link hne hend hdots hlong target (hgrown.kept hn)
            (hlink h)

theorem walkLinks_grown {paths : List String}
    (hgrown : Grown paths tree tree') {links : Nat} {parts : List String}
    {here : Place} {spot : Spot}
    (h : tree.walkLinks .follow links here parts = .ok spot) :
    tree'.walkLinks .follow links here parts = .ok spot := by
  induction links generalizing here parts spot with
  | zero =>
      rw [walkLinks] at h ⊢
      exact walkParts_grown hgrown (fun hl => by cases hl) h
  | succ links ih =>
      rw [walkLinks] at h ⊢
      refine walkParts_grown hgrown (fun {_ target rest _} hl => ?_) h
      split at hl
      · cases hl
      · next htarget =>
        rw [if_neg htarget]
        exact ih hl

/-- What a path leads to is kept when a tree grows. -/
theorem walk_grown {paths : List String} (hgrown : Grown paths tree tree')
    {spot : Spot} (h : tree.walk .follow path = .ok spot) :
    tree'.walk .follow path = .ok spot := by
  obtain ⟨hlinks, hwalk⟩ := walk_ok h tree' hgrown.workdir .follow
  rw [hwalk]
  exact walkLinks_grown hgrown hlinks

theorem locate_grown {paths : List String}
    (hgrown : Grown paths tree tree') {found : Place × Node}
    (h : tree.locate path = .ok found) : tree'.locate path = .ok found := by
  unfold locate at h ⊢
  cases hw : tree.walk .follow path with
  | error fault => rw [hw] at h; cases h
  | ok spot =>
      rw [hw] at h
      rw [walk_grown hgrown hw]
      exact h

namespace Grown

variable {paths : List String}

theorem refl (paths : List String) (tree : FileTree) :
    Grown paths tree tree where
  workdir := rfl
  kept := id
  added := by
    intro place node hnone hsome
    rw [hnone] at hsome
    cases hsome
  grounded := id

theorem trans (h : Grown paths tree tree') (h' : Grown paths tree' tree'') :
    Grown paths tree tree'' where
  workdir := h'.workdir.trans h.workdir
  kept := fun hn => h'.kept (h.kept hn)
  added := by
    intro place node hnone hsome
    cases hn : tree'.node? place with
    | none => exact h'.added hn hsome
    | some node' =>
        obtain ⟨hdirectory, path, hpath, hlocate⟩ := h.added hnone hn
        have hsame := h'.kept hn
        rw [hsome] at hsame
        exact ⟨(Option.some.inj hsame).trans hdirectory, path, hpath,
          locate_grown h' hlocate⟩
  grounded := fun hg => h'.grounded (h.grounded hg)

theorem mono {more : List String} (h : Grown paths tree tree')
    (hmore : ∀ path ∈ paths, path ∈ more) : Grown more tree tree' where
  workdir := h.workdir
  kept := h.kept
  added := by
    intro place node hnone hsome
    obtain ⟨hdirectory, path, hpath, hlocate⟩ := h.added hnone hsome
    exact ⟨hdirectory, path, hmore path hpath, hlocate⟩
  grounded := h.grounded

end Grown

-- ============================================== making one directory

theorem grown_makeDirectory (h : tree.makeDirectory path = .ok tree') :
    Grown [path] tree tree' := by
  obtain ⟨here, name, hspot, hfree, rfl⟩ := makeDirectory_ok h
  have hwalk : (tree.set (here ++ [name]) .directory).walk .follow path
      = .ok (.found (here ++ [name]) .directory) :=
    walk_set .directory hspot
  refine ⟨rfl, ?kept, ?added, fun hg => hg.makeDirectory h⟩
  case kept =>
    intro place node hn
    rw [node?_set_of_ne, hn]
    rintro rfl
    rw [hfree] at hn
    cases hn
  case added =>
    intro place node hnone hsome
    by_cases hplace : place = here ++ [name]
    · subst hplace
      rw [node?_set_self (by simp)] at hsome
      refine ⟨(Option.some.inj hsome).symm, path, by simp, ?_⟩
      unfold locate
      rw [hwalk]
      rfl
    · rw [node?_set_of_ne hplace, hnone] at hsome
      cases hsome

/-- The path leads to a directory with nothing in it. -/
def LeadsToEmpty (tree : FileTree) (path : String) : Prop :=
  ∃ here, tree.walk .follow path = .ok (.found here .directory)
    ∧ ∀ name, tree.node? (here ++ [name]) = none

/-- A directory that was just made is empty. -/
theorem leadsToEmpty_makeDirectory (hg : tree.Grounded)
    (h : tree.makeDirectory path = .ok tree') :
    tree'.LeadsToEmpty path := by
  obtain ⟨here, name, hspot, hfree, rfl⟩ := makeDirectory_ok h
  refine ⟨here ++ [name], walk_set .directory hspot, fun entry => ?_⟩
  rw [node?_set_of_ne (by simp), Option.eq_none_iff_forall_ne_some]
  intro node hn
  rw [hg.parent hn] at hfree
  cases hfree

end FileTree

end FileDepot
