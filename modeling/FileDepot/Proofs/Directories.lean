/-
Making the directories above a target, and what that leaves as it was.

A target that was not found could be found once the directories above it
are there. Not so when its path is plain. Then either nothing was made,
or the parent of the target is a directory that has just been made and
is empty (`climb_fresh`): below a directory that has just been made a
plain path finds nothing, so all directories further down are made as
well (`LeadsToEmpty.makeDirectory`).

With double dots this fails. `a/..` is missing as long as `a` is, and
leads to a directory full of files afterwards.

Whatever its names are, a path whose directories were made leads to a
directory (`leads_of_makeDirectories`).
-/
import FileDepot.Depot.Download
import FileDepot.Proofs.Descent

namespace FileDepot

/-- A path comes before those above it. -/
theorem Path.ancestors_eq_cons (path : String) :
    ∃ above, ancestors path = path :: above := by
  unfold ancestors
  cases path.length with
  | zero => exact ⟨[], rfl⟩
  | succ n =>
      rw [ancestorsGo]
      split <;> exact ⟨_, rfl⟩

namespace FileTree

variable {tree tree' : FileTree} {path : String}

-- ================================================ rows of directories

/-- How a climb ends: at once, at the root or at a directory that is
there or could be made, or after a longer climb from a path whose parent
is missing. -/
inductive Climbs (tree : FileTree) (path : String) (above : List String) :
    FileTree → List String → Prop
  | stops (h : Path.parent? path = none ∨ tree.isDirectory path = true) :
      Climbs tree path above tree []
  | makes {tree' : FileTree} (h : tree.makeDirectory path = .ok tree') :
      Climbs tree path above tree' []
  | climbs {tree' : FileTree} {left : List String}
      (h : tree.makeDirectory path = .error .missing)
      (habove : tree.climb above = .ok (tree', left)) :
      Climbs tree path above tree' (left ++ [path])

theorem climbs_of_climb {above left : List String}
    (h : tree.climb (path :: above) = .ok (tree', left)) :
    Climbs tree path above tree' left := by
  rw [climb] at h
  split at h
  · next hroot =>
    injection h with h
    obtain ⟨rfl, rfl⟩ := Prod.mk.inj h
    refine .stops (.inl ?_)
    by_cases hempty : path = ""
    · rw [hempty]
      rfl
    · simpa [hempty] using hroot
  · split at h
    · next hmake =>
      injection h with h
      obtain ⟨rfl, rfl⟩ := Prod.mk.inj h
      exact .makes hmake
    · next hmake =>
      split at h
      · next habove =>
        injection h with h
        obtain ⟨rfl, rfl⟩ := Prod.mk.inj h
        exact .climbs hmake habove
      · cases h
    · split at h
      · next hthere =>
        injection h with h
        obtain ⟨rfl, rfl⟩ := Prod.mk.inj h
        exact .stops (.inr hthere.2)
      · cases h

/-- Climbing makes one of the directories at most, and leaves others of
them to be made. -/
theorem grown_climb {paths left : List String}
    (h : tree.climb paths = .ok (tree', left)) :
    Grown paths tree tree' ∧ ∀ path ∈ left, path ∈ paths := by
  induction paths generalizing tree' left with
  | nil =>
      injection h with h
      obtain ⟨rfl, rfl⟩ := Prod.mk.inj h
      exact ⟨.refl _ _, by simp⟩
  | cons path above ih =>
      cases climbs_of_climb h with
      | stops => exact ⟨.refl _ _, by simp⟩
      | makes hmake =>
          exact ⟨(grown_makeDirectory hmake).mono (by simp), by simp⟩
      | climbs hmake habove =>
          obtain ⟨hgrown, hleft⟩ := ih habove
          refine ⟨hgrown.mono fun p hp => List.mem_cons_of_mem _ hp, ?_⟩
          intro p hp
          rcases List.mem_append.mp hp with hp | hp
          · exact List.mem_cons_of_mem _ (hleft p hp)
          · rw [List.mem_singleton.mp hp]
            exact List.mem_cons_self ..

/-- A row of directories is made one by one, as far as it goes. -/
theorem grown_makeEach (paths : List String) (tree : FileTree) :
    Grown paths tree (tree.makeEach paths).1 := by
  induction paths generalizing tree with
  | nil => exact .refl _ _
  | cons path rest ih =>
      have hrest : ∀ tree : FileTree,
          Grown (path :: rest) tree (tree.makeEach rest).1 := fun tree =>
        (ih tree).mono fun p hp => List.mem_cons_of_mem _ hp
      rw [makeEach]
      split
      · next made hmake =>
        exact ((grown_makeDirectory hmake).mono (by simp)).trans (hrest made)
      · split
        · exact hrest tree
        · exact .refl _ _

theorem grown_makeDirectories (path : String) (tree : FileTree) :
    Grown (Path.ancestors path) tree (tree.makeDirectories path).1 := by
  unfold makeDirectories
  split
  · exact .refl _ _
  · split
    · next climbed left hclimb =>
      obtain ⟨hgrown, hleft⟩ := grown_climb hclimb
      exact hgrown.trans ((grown_makeEach left climbed).mono hleft)
    · exact .refl _ _

/-- The last directory of a row is made last. -/
theorem makeEach_concat {paths : List String} {made : FileTree}
    (h : tree.makeEach (paths ++ [path]) = (made, none)) :
    ∃ before, tree.makeEach paths = (before, none)
      ∧ (before.makeDirectory path = .ok made
        ∨ before.makeDirectory path = .error .exists ∧ made = before
          ∧ made.isDirectory path = true) := by
  induction paths generalizing tree with
  | nil =>
      rw [List.nil_append, makeEach] at h
      refine ⟨tree, rfl, ?_⟩
      split at h
      · next hmake =>
        rw [← (Prod.mk.inj h).1]
        exact .inl hmake
      · next hmake =>
        split at h
        · next hthere =>
          rw [hmake, hthere.1, ← (Prod.mk.inj h).1]
          exact .inr ⟨rfl, rfl, hthere.2⟩
        · cases (Prod.mk.inj h).2
  | cons first rest ih =>
      rw [List.cons_append, makeEach] at h
      rw [makeEach]
      split at h
      · next hmake => exact ih h
      · next hmake =>
        split at h
        · next hthere =>
          rw [if_pos hthere]
          exact ih h
        · cases (Prod.mk.inj h).2

/-- If a row of directories up to the parent of a plain path leaves the
tree or ends in a new one, so does the row with the path behind it. -/
theorem fresh_of_climbs (hg : tree.Grounded) (hplain : Path.IsPlain path)
    {climbed made : FileTree} {above left : List String}
    (hclimbs : Climbs tree path above climbed left)
    (hmade : climbed.makeEach left = (made, none))
    (habove : ∀ {climbed before : FileTree} {left : List String},
      tree.climb above = .ok (climbed, left) →
        climbed.makeEach left = (before, none) →
          before = tree
            ∨ ∃ up, Path.parent? path = some up ∧ before.LeadsToEmpty up) :
    made = tree ∨ made.LeadsToEmpty path := by
  cases hclimbs with
  | stops => exact .inl (Prod.mk.inj hmade).1.symm
  | makes hmake =>
      rw [← (Prod.mk.inj hmade).1]
      exact .inr (leadsToEmpty_makeDirectory hg hmake)
  | @climbs _ left hmissing hclimb =>
      obtain ⟨before, hbefore, hlast⟩ := makeEach_concat hmade
      have hg' : before.Grounded := by
        have heach := (grown_makeEach left climbed).grounded
          ((grown_climb hclimb).1.grounded hg)
        rwa [hbefore] at heach
      rcases habove hclimb hbefore with rfl | ⟨up, hup, hempty⟩
      · -- the directory was missing and nothing has been made since
        rw [hmissing] at hlast
        rcases hlast with hlast | ⟨hlast, -⟩ <;> cases hlast
      · rcases hlast with hlast | ⟨hlast, -⟩
        · exact .inr (leadsToEmpty_makeDirectory hg' hlast)
        · rcases hempty.makeDirectory hplain hup with
            ⟨tree', hmake⟩ | ⟨fault, hmake, hfault⟩
          · rw [hlast] at hmake
            cases hmake
          · rw [hlast] at hmake
            exact absurd (Except.error.inj hmake).symm hfault

/-- Of the directories of a plain path none was made, or the last of
them is new. -/
theorem climb_fresh (hg : tree.Grounded) {climbed made : FileTree}
    {left : List String} (n : Nat) (hplain : Path.IsPlain path)
    (hclimb : tree.climb (Path.ancestorsGo n path) = .ok (climbed, left))
    (hmade : climbed.makeEach left = (made, none)) :
    made = tree ∨ made.LeadsToEmpty path := by
  have hnone : ∀ {climbed before : FileTree} {left : List String},
      tree.climb [] = .ok (climbed, left) →
        climbed.makeEach left = (before, none) → before = tree := by
    intro climbed before left hclimb hmade
    injection hclimb with hclimb
    obtain ⟨rfl, rfl⟩ := Prod.mk.inj hclimb
    exact (Prod.mk.inj hmade).1.symm
  -- the induction goes up to the root, a step comes down by one name
  induction n generalizing path climbed left made with
  | zero =>
      exact fresh_of_climbs hg hplain (climbs_of_climb hclimb) hmade
        fun hclimb hmade => .inl (hnone hclimb hmade)
  | succ n ih =>
      rw [Path.ancestorsGo] at hclimb
      cases hup : Path.parent? path with
      | none =>
          rw [hup] at hclimb
          exact fresh_of_climbs hg hplain (climbs_of_climb hclimb) hmade
            fun hclimb hmade => .inl (hnone hclimb hmade)
      | some up =>
          rw [hup] at hclimb
          have hplain' := (Path.parent?_plain hplain hup).2.1
          exact fresh_of_climbs hg hplain (climbs_of_climb hclimb) hmade
            fun hclimb hmade =>
              (ih hplain' hclimb hmade).imp_right fun h => ⟨up, hup, h⟩

/-- The directories of a plain path are there, or the last of them is
new. -/
theorem makeDirectories_fresh (hg : tree.Grounded)
    (hplain : Path.IsPlain path) {made : FileTree}
    (h : tree.makeDirectories path = (made, none)) :
    made = tree ∨ made.LeadsToEmpty path := by
  unfold makeDirectories at h
  split at h
  · exact .inl (Prod.mk.inj h).1.symm
  · split at h
    · next climbed left hclimb => exact climb_fresh hg _ hplain hclimb h
    · cases (Prod.mk.inj h).2

/-- What is a directory is led to by its path. -/
theorem leads_of_isDirectory (h : tree.isDirectory path = true) :
    ∃ there, tree.walk .follow path = .ok (.found there .directory) := by
  unfold isDirectory locate at h
  cases hwalk : tree.walk .follow path with
  | error fault => rw [hwalk] at h; cases h
  | ok spot =>
      rw [hwalk] at h
      cases spot with
      | free place => cases h
      | found place node =>
          cases node with
          | directory => exact ⟨place, rfl⟩
          | file content => cases h
          | link target => cases h

/-- A directory that was just made is led to by its path. -/
theorem leads_of_makeDirectory {made : FileTree}
    (h : tree.makeDirectory path = .ok made) :
    ∃ there, made.walk .follow path = .ok (.found there .directory) := by
  obtain ⟨here, name, hspot, -, rfl⟩ := makeDirectory_ok h
  exact ⟨here ++ [name], walk_set .directory hspot⟩

/-- Once the directories of a path other than the root are there, the
path leads to one. -/
theorem leads_of_makeDirectories {made : FileTree}
    (hup : (Path.parent? path).isSome = true)
    (h : tree.makeDirectories path = (made, none)) :
    ∃ there, made.walk .follow path = .ok (.found there .directory) := by
  obtain ⟨above, habove⟩ := Path.ancestors_eq_cons path
  unfold makeDirectories at h
  split at h
  · next hempty =>
    rw [String.isEmpty_iff.mp hempty] at hup
    cases hup
  · split at h
    · next climbed left hclimb =>
      rw [habove] at hclimb
      cases climbs_of_climb hclimb with
      | stops hstop =>
          rcases hstop with hroot | hthere
          · rw [hroot] at hup
            cases hup
          · rw [← (Prod.mk.inj h).1]
            exact leads_of_isDirectory hthere
      | makes hmake =>
          rw [← (Prod.mk.inj h).1]
          exact leads_of_makeDirectory hmake
      | climbs hmissing hclimb =>
          -- the path itself is the last of the row
          obtain ⟨before, -, hmake | ⟨-, -, hthere⟩⟩ := makeEach_concat h
          · exact leads_of_makeDirectory hmake
          · exact leads_of_isDirectory hthere
    · cases (Prod.mk.inj h).2

end FileTree

-- ============================================================== room

namespace Depot

open FileTree

variable {files room : FileTree} {target : String}

/-- The paths of the directories above a target. -/
def above (target : String) : List String :=
  (Path.parent? target).elim [] Path.ancestors

/-- Making room adds directories above the target. -/
theorem grown_makeRoom (files : FileTree) (target : String) :
    Grown (above target) files (makeRoom files target).1 := by
  unfold makeRoom above
  cases Path.parent? target with
  | none => exact .refl _ _
  | some directory =>
      dsimp only [Option.elim_some]
      split
      · exact .refl _ _
      · exact grown_makeDirectories directory files

/-- What a plain target leads to does not depend on whether there is
room for it. -/
theorem locate_makeRoom (hg : files.Grounded)
    (hplain : Path.IsPlain target)
    (hroom : makeRoom files target = (room, none)) :
    (room.locate target).toOption = (files.locate target).toOption := by
  have hgrown := grown_makeRoom files target
  rw [hroom] at hgrown
  unfold makeRoom at hroom
  cases hup : Path.parent? target with
  | none =>
      rw [hup] at hroom
      rw [(Prod.mk.inj hroom).1]
  | some up =>
      simp only [hup] at hroom
      split at hroom
      · rw [(Prod.mk.inj hroom).1]
      · rcases hmade : files.makeDirectories up with ⟨made, fault⟩
        simp only [hmade, Prod.mk.injEq, Option.map_eq_none_iff] at hroom
        obtain ⟨rfl, rfl⟩ := hroom
        have hplain' := (Path.parent?_plain hplain hup).2.1
        rcases makeDirectories_fresh hg hplain' hmade with rfl | hempty
        · rfl
        · -- what is not found below a new directory was not there before
          obtain ⟨fault, hnot⟩ := hempty.locate hplain hup
          cases hbefore : files.locate target with
          | error fault' => rw [hnot]; rfl
          | ok found =>
              rw [locate_grown hgrown hbefore] at hnot
              cases hnot

end Depot

end FileDepot
