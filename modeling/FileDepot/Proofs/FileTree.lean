/-
What was made under a path is found under it: a file that was written
can be read back, and a directory that was made is a directory.

# Why a walk ends at the same place

Making something walks the path with the intent to create it, looking
for it walks the path to follow it, and the tree has changed in between.
The change is at one place only, the one where the first walk ended, and
that place was free or a file (`Accepts`). No walk goes on from such a
place: a free one ends it as missing and a file as no directory. So both
walks see the same directories and the same links up to their last step
(`walkParts_set`), and there the second one meets what was made.
-/
import FileDepot.FileTree.Access
import FileDepot.Proofs.Walk

namespace FileDepot

namespace FileTree

variable {tree : FileTree}

-- ============================================================= nodes

/-- A node that was put at a place is found there. -/
theorem find?_setNode_self (place : Place) (node : Node)
    (nodes : List (Place × Node)) :
    (setNode place node nodes).find? (fun entry => entry.1 == place)
      = some (place, node) := by
  induction nodes with
  | nil => simp [setNode]
  | cons entry rest ih =>
      obtain ⟨p, n⟩ := entry
      unfold setNode
      by_cases h : p = place
      · simp [h]
      · rw [if_neg h, List.find?_cons_of_neg (by simpa using h), ih]

/-- What stands at other places is found as before. -/
theorem find?_setNode_of_ne {place other : Place} (h : other ≠ place)
    (node : Node) (nodes : List (Place × Node)) :
    (setNode place node nodes).find? (fun entry => entry.1 == other)
      = nodes.find? (fun entry => entry.1 == other) := by
  induction nodes with
  | nil => simp [setNode, Ne.symm h]
  | cons entry rest ih =>
      obtain ⟨p, n⟩ := entry
      unfold setNode
      by_cases hp : p = place
      · have hne : ¬(p == other) = true := by
          subst hp
          simpa using Ne.symm h
        rw [if_pos hp, ← hp]
        simp [hne]
      · rw [if_neg hp, List.find?_cons, List.find?_cons, ih]

/-- A node that was put at a place stands there; the root stays a
directory. -/
theorem node?_set_self {place : Place} (h : place ≠ []) (node : Node) :
    (tree.set place node).node? place = some node := by
  unfold node? set
  rw [if_neg h, find?_setNode_self]
  rfl

/-- The other places are as they were. -/
theorem node?_set_of_ne {place other : Place} (h : other ≠ place)
    (node : Node) : (tree.set place node).node? other = tree.node? other := by
  unfold node? set
  rw [find?_setNode_of_ne h]

-- ============================================= where things are made

/-- The place where a walk ends. -/
def Spot.place : Spot → Place
  | .found place _ => place
  | .free place => place

/-- What a walk with an intent to create makes room for. -/
inductive Makes : Intent → Node → Prop
  | file (content : Bytes) : Makes .createFile (.file content)
  | directory : Makes .createDirectory .directory

/-- A walk to create something ends at a place: it is free, or it is a
file that can be replaced. -/
inductive EndsAt (tree : FileTree) (place : Place) : Spot → Prop
  | free (h : tree.node? place = none) : EndsAt tree place (.free place)
  | file (content : Bytes)
      (h : tree.node? place = some (.file content)) :
      EndsAt tree place (.found place (.file content))

/-- The directories that walks come through. -/
inductive Visited (tree : FileTree) : Place → Prop
  | root : Visited tree []
  | workdir : Visited tree tree.workdir
  | dots {here : Place} (part : String) (h : Visited tree here) :
      Visited tree (afterDots here part)
  | entry {place : Place} (h : tree.node? place = some .directory) :
      Visited tree place

/-- A place that something can be put at: not the root, and free or a
file already. -/
def Accepts (tree : FileTree) (place : Place) : Prop :=
  place ≠ []
    ∧ (tree.node? place = none
        ∨ ∃ content, tree.node? place = some (.file content))

/-- A place with a directory or a link accepts nothing. -/
theorem Accepts.not_passed {place : Place} (h : tree.Accepts place)
    {node : Node} (hn : tree.node? place = some node)
    (hp : node = .directory ∨ ∃ target, node = .link target) : False := by
  obtain ⟨-, hnone | ⟨content, hfile⟩⟩ := h
  · rw [hnone] at hn
    cases hn
  · rw [hfile] at hn
    injection hn with hn
    subst hn
    rcases hp with hp | ⟨target, hp⟩ <;> cases hp

theorem EndsAt.place_eq {place : Place} {spot : Spot}
    (h : tree.EndsAt place spot) : spot.place = place := by
  cases h <;> rfl

theorem EndsAt.accepts {here : Place} {part : String} {spot : Spot}
    (h : tree.EndsAt (here ++ [part]) spot) : tree.Accepts spot.place := by
  rw [h.place_eq]
  refine ⟨by simp, ?_⟩
  cases h with
  | free h => exact .inl h
  | file content h => exact .inr ⟨content, h⟩

variable {intent : Intent} {node : Node}

/-- The last step of a walk to create a directory ends at the named
entry, which is free. -/
theorem arrive_createDirectory {onLink : OnLink} {here : Place}
    {part : String} {slashed : Bool} {spot : Spot}
    (h : tree.arrive .createDirectory onLink here part slashed = .ok spot) :
    isDots part = false ∧ ¬maxName < part.utf8ByteSize
      ∧ tree.node? (here ++ [part]) = none
      ∧ spot = .free (here ++ [part]) := by
  unfold arrive at h
  dsimp only at h
  split at h
  · cases h
  · next hdots =>
    split at h
    · next hslash => cases hslash.1
    · split at h
      · cases h
      · next hlong =>
        refine ⟨by simpa using hdots, hlong, ?_⟩
        cases hn : tree.node? (here ++ [part]) with
        | none =>
            rw [hn] at h
            exact ⟨rfl, (Except.ok.inj h).symm⟩
        | some node =>
            rw [hn] at h
            cases node <;> cases h

/-- The last step of a walk to create a file: it ends at the named
entry, free or a file, or goes on through a link. -/
theorem arrive_createFile {onLink : OnLink} {here : Place} {part : String}
    {slashed : Bool} {spot : Spot}
    (h : tree.arrive .createFile onLink here part slashed = .ok spot) :
    (isDots part = false ∧ slashed = false
        ∧ ¬maxName < part.utf8ByteSize)
      ∧ (tree.EndsAt (here ++ [part]) spot
        ∨ ∃ target, tree.node? (here ++ [part]) = some (.link target)
          ∧ onLink here target [] = .ok spot) := by
  unfold arrive at h
  dsimp only at h
  split at h
  · cases h
  · next hdots =>
    split at h
    · cases h
    · next hslash =>
      have hslashed : slashed = false := by simpa using hslash
      subst hslashed
      split at h
      · cases h
      · next hlong =>
        refine ⟨⟨by simpa using hdots, rfl, hlong⟩, ?_⟩
        cases hn : tree.node? (here ++ [part]) with
        | none =>
            rw [hn] at h
            rw [← Except.ok.inj h]
            exact .inl (.free hn)
        | some node =>
            rw [hn] at h
            cases node with
            | directory => cases h
            | file content =>
                rw [← Except.ok.inj h]
                exact .inl (.file content hn)
            | link target => exact .inr ⟨target, rfl, h⟩

/-- The last step of a walk to create something: it ends at the named
entry, or goes on through a link. A slash behind the name is for
directories. -/
theorem arrive_makes (hm : Makes intent node) {onLink : OnLink}
    {here : Place} {part : String} {slashed : Bool} {spot : Spot}
    (h : tree.arrive intent onLink here part slashed = .ok spot) :
    (isDots part = false ∧ (slashed = true → node = .directory)
        ∧ ¬maxName < part.utf8ByteSize)
      ∧ (tree.EndsAt (here ++ [part]) spot
        ∨ ∃ target, tree.node? (here ++ [part]) = some (.link target)
          ∧ slashed = false ∧ onLink here target [] = .ok spot) := by
  cases hm with
  | file content =>
      obtain ⟨⟨hdots, hslashed, hlong⟩, hend⟩ := arrive_createFile h
      refine ⟨⟨hdots, by simp [hslashed], hlong⟩, hend.imp_right ?_⟩
      rintro ⟨target, hn, hl⟩
      exact ⟨target, hn, hslashed, hl⟩
  | directory =>
      obtain ⟨hdots, hlong, hnone, rfl⟩ := arrive_createDirectory h
      exact ⟨⟨hdots, fun _ => rfl, hlong⟩, .inl (.free hnone)⟩

/-- A walk to create something ends in a directory it came through, if
the walks through links do. -/
theorem ends_of_walkParts (hm : Makes intent node) {onLink : OnLink}
    {parts : List String} {here : Place} {spot : Spot} (hne : parts ≠ [])
    (hhere : tree.Visited here)
    (hlink : ∀ {here target rest spot}, tree.Visited here →
      onLink here target rest = .ok spot →
        ∃ here part, tree.Visited here ∧ tree.EndsAt (here ++ [part]) spot)
    (h : tree.walkParts intent onLink here parts = .ok spot) :
    ∃ here part, tree.Visited here ∧ tree.EndsAt (here ++ [part]) spot := by
  induction parts generalizing here with
  | nil => exact absurd rfl hne
  | cons part rest ih =>
      cases starts_of_walkParts h with
      | last slashed hrest h =>
          obtain ⟨-, hend | ⟨target, -, -, hl⟩⟩ := arrive_makes hm h
          · exact ⟨here, part, hhere, hend⟩
          · exact hlink hhere hl
      | dots hne hend hdots h => exact ih hne (hhere.dots part) h
      | directory hne hend hdots hlong hn h => exact ih hne (.entry hn) h
      | link hne hend hdots hlong target hn h => exact hlink hhere h

/-- The directory that walks of a text start from. -/
theorem visited_start {here : Place} (h : tree.Visited here)
    (text : String) :
    tree.Visited (if Path.isAbsolute text then [] else here) := by
  split
  · exact .root
  · exact h

/-- A walk to create something ends in a directory it came through. -/
theorem ends_of_walkLinks (hm : Makes intent node) {links : Nat}
    {parts : List String} {here : Place} {spot : Spot} (hne : parts ≠ [])
    (hhere : tree.Visited here)
    (h : tree.walkLinks intent links here parts = .ok spot) :
    ∃ here part, tree.Visited here ∧ tree.EndsAt (here ++ [part]) spot := by
  induction links generalizing here parts spot with
  | zero =>
      rw [walkLinks] at h
      exact ends_of_walkParts hm hne hhere (fun _ hl => by cases hl) h
  | succ links ih =>
      rw [walkLinks] at h
      refine ends_of_walkParts hm hne hhere
        (fun {_ target rest _} hhere hl => ?_) h
      split at hl
      · cases hl
      · exact ih (splice_ne_nil target rest) (visited_start hhere target) hl

-- ================================================ the second walk

variable {place : Place}

/-- The last step of a walk that ended at a place meets what was put
there. -/
theorem arrive_set (hm : Makes intent node) {onLink onLink' : OnLink}
    {here : Place} {part : String} {slashed : Bool} {spot : Spot}
    (hp : tree.Accepts place)
    (hlink : ∀ {here target rest spot},
      onLink here target rest = .ok spot → spot.place = place →
        onLink' here target rest = .ok (.found place node))
    (h : tree.arrive intent onLink here part slashed = .ok spot)
    (hs : spot.place = place) :
    (tree.set place node).arrive .follow onLink' here part slashed
      = .ok (.found place node) := by
  obtain ⟨⟨hdots, hslashed, hlong⟩, hend⟩ := arrive_makes hm h
  apply arrive_of_follows
  rcases hend with hend | ⟨target, hn, hnot, hl⟩
  · obtain rfl : place = here ++ [part] := hs.symm.trans hend.place_eq
    have hnode : (tree.set (here ++ [part]) node).node? (here ++ [part])
        = some node := node?_set_self hp.1 node
    cases hm with
    | directory => exact .directory hdots hlong hnode
    | file content =>
        exact .file hdots hlong content hnode (by simpa using hslashed)
  · have hne : here ++ [part] ≠ place := by
      rintro rfl
      exact hp.not_passed hn (.inr ⟨target, rfl⟩)
    refine .link hdots hlong target (by rw [node?_set_of_ne hne, hn]) ?_
    rw [hnot]
    exact hlink hl hs

/-- A walk that ended at a place meets what was put there, if the walks
through links do. -/
theorem walkParts_set (hm : Makes intent node) {onLink onLink' : OnLink}
    {parts : List String} {here : Place} {spot : Spot} (hne : parts ≠ [])
    (hp : tree.Accepts place)
    (hlink : ∀ {here target rest spot},
      onLink here target rest = .ok spot → spot.place = place →
        onLink' here target rest = .ok (.found place node))
    (h : tree.walkParts intent onLink here parts = .ok spot)
    (hs : spot.place = place) :
    (tree.set place node).walkParts .follow onLink' here parts
      = .ok (.found place node) := by
  induction parts generalizing here with
  | nil => exact absurd rfl hne
  | cons part rest ih =>
      have hpass : ∀ {met : Node},
          tree.node? (here ++ [part]) = some met →
          (met = .directory ∨ ∃ target, met = .link target) →
            (tree.set place node).node? (here ++ [part]) = some met := by
        intro met hn hmet
        rw [node?_set_of_ne, hn]
        rintro rfl
        exact hp.not_passed hn hmet
      apply walkParts_of_starts
      cases starts_of_walkParts h with
      | last slashed hrest h =>
          exact .last slashed hrest (arrive_set hm hp hlink h hs)
      | dots hne hend hdots h => exact .dots hne hend hdots (ih hne h)
      | directory hne hend hdots hlong hn h =>
          exact .directory hne hend hdots hlong (hpass hn (.inl rfl))
            (ih hne h)
      | link hne hend hdots hlong target hn h =>
          exact .link hne hend hdots hlong target
            (hpass hn (.inr ⟨target, rfl⟩)) (hlink h hs)

/-- A walk that ended at a place meets what was put there. -/
theorem walkLinks_set (hm : Makes intent node) {links : Nat}
    {parts : List String} {here : Place} {spot : Spot} (hne : parts ≠ [])
    (hp : tree.Accepts place)
    (h : tree.walkLinks intent links here parts = .ok spot)
    (hs : spot.place = place) :
    (tree.set place node).walkLinks .follow links here parts
      = .ok (.found place node) := by
  induction links generalizing here parts spot with
  | zero =>
      rw [walkLinks] at h ⊢
      exact walkParts_set hm hne hp (fun hl => by cases hl) h hs
  | succ links ih =>
      rw [walkLinks] at h ⊢
      refine walkParts_set hm hne hp
        (fun {_ target rest _} hl hpl => ?_) h hs
      split at hl
      · cases hl
      · next htarget =>
        rw [if_neg htarget]
        exact ih (splice_ne_nil target rest) hl hpl

-- ===================================================== make and find

/-- A walk to create something ends in a directory it came through. -/
theorem ends_of_walk (hm : Makes intent node) {path : String}
    {spot : Spot} (h : tree.walk intent path = .ok spot) :
    ∃ here part, tree.Visited here ∧ tree.EndsAt (here ++ [part]) spot :=
  ends_of_walkLinks hm (Path.parts_ne_nil path)
    (visited_start .workdir path) (walk_ok h tree rfl intent).1

/-- What was made is found under its path. -/
theorem walk_set (hm : Makes intent node) {path : String} {spot : Spot}
    (h : tree.walk intent path = .ok spot) :
    (tree.set spot.place node).walk .follow path
      = .ok (.found spot.place node) := by
  obtain ⟨hlinks, hwalk⟩ := walk_ok h (tree.set spot.place node) rfl .follow
  obtain ⟨_, _, -, hend⟩ := ends_of_walk hm h
  rw [hwalk]
  exact walkLinks_set hm (Path.parts_ne_nil path) hend.accepts hlinks rfl

/-- A file is put where the walk to create it ends. -/
theorem write_ok {path : String} {content : Bytes} {tree' : FileTree}
    (h : tree.write path content = .ok tree') :
    ∃ spot, tree.walk .createFile path = .ok spot
      ∧ tree' = tree.set spot.place (.file content) := by
  unfold write targetPlace at h
  cases hw : tree.walk .createFile path with
  | error fault => rw [hw] at h; cases h
  | ok spot =>
      rw [hw] at h
      refine ⟨spot, rfl, ?_⟩
      cases spot <;> exact (Except.ok.inj h).symm

/-- A directory is put at a free place where the walk to create it
ends. -/
theorem makeDirectory_ok {path : String} {tree' : FileTree}
    (h : tree.makeDirectory path = .ok tree') :
    ∃ here name, tree.walk .createDirectory path
          = .ok (.free (here ++ [name]))
      ∧ tree.node? (here ++ [name]) = none
      ∧ tree' = tree.set (here ++ [name]) .directory := by
  unfold makeDirectory at h
  cases hw : tree.walk .createDirectory path with
  | error fault => rw [hw] at h; cases h
  | ok spot =>
      rw [hw] at h
      obtain ⟨here, name, -, hend⟩ := ends_of_walk .directory hw
      cases hend with
      | file content hn => cases h
      | free hn => exact ⟨here, name, rfl, hn, (Except.ok.inj h).symm⟩

/-- What was written under a path is read under it. -/
theorem read_write {path : String} {content : Bytes} {tree' : FileTree}
    (h : tree.write path content = .ok tree') :
    tree'.read path = .ok content := by
  obtain ⟨spot, hspot, rfl⟩ := write_ok h
  unfold FileTree.read locate
  rw [walk_set (.file content) hspot]
  rfl

end FileTree

end FileDepot
