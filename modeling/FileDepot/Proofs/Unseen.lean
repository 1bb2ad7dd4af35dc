/-
Operations do not notice what their paths do not see.

Two trees may differ at some hidden places (`SameBut`). A path that sees
none of them leads to the same in both, so whatever is read is the same,
and what is made or written comes to the same places: the trees differ
in no more than they did.

The places that a path sees become more while directories are made. An
operation on files is therefore asked for paths that see nothing hidden
in the tree it leaves (`Misses`); the trees on the way there show less.
All else a depot does is blind to files altogether (`Blind`).
-/
import FileDepot.Proofs.Handle
import FileDepot.Proofs.Resemblance
import FileDepot.Proofs.Sights

namespace FileDepot

namespace FileTree

variable {hidden : Place → Prop} {tree tree' tree'' : FileTree}
  {path up : String}

-- ======================================================= hidden places

/-- Two trees are the same but at hidden places. -/
structure SameBut (hidden : Place → Prop) (tree tree' : FileTree) :
    Prop where
  workdir : tree'.workdir = tree.workdir
  node : ∀ {place : Place}, ¬hidden place →
    tree'.node? place = tree.node? place

/-- A path sees no hidden place. -/
def Misses (hidden : Place → Prop) (tree : FileTree) (path : String) :
    Prop :=
  ∀ place ∈ tree.sights path, ¬hidden place

instance [DecidablePred hidden] : Decidable (tree.Misses hidden path) :=
  inferInstanceAs (Decidable (∀ place ∈ tree.sights path, _))

/-- What a path misses at the end it has missed before, and so have the
paths above it. -/
theorem Misses.before (h : tree'.Misses hidden path)
    (hkept : Kept tree tree') (habove : Path.Above up path) :
    tree.Misses hidden up :=
  fun place hplace => h place (hkept.sights habove hplace)

/-- The same for the path itself. -/
theorem Misses.of_kept (h : tree'.Misses hidden path)
    (hkept : Kept tree tree') : tree.Misses hidden path :=
  h.before hkept (.refl path)

/-- What comes of two trees beside them is the same, and they stay the
same but at hidden places. -/
structure Besides (hidden : Place → Prop) {α : Type}
    (p p' : FileTree × α) : Prop where
  files : SameBut hidden p.1 p'.1
  rest : p'.2 = p.2

namespace SameBut

theorem trans (h : SameBut hidden tree tree')
    (h' : SameBut hidden tree' tree'') : SameBut hidden tree tree'' where
  workdir := h'.workdir.trans h.workdir
  node := fun hplace => (h'.node hplace).trans (h.node hplace)

/-- More may be hidden. -/
theorem mono {hidden' : Place → Prop} (h : SameBut hidden tree tree')
    (hmore : ∀ place, hidden place → hidden' place) :
    SameBut hidden' tree tree' where
  workdir := h.workdir
  node := fun hplace => h.node (mt (hmore _) hplace)

/-- The same put at the same place makes no difference. -/
theorem set (h : SameBut hidden tree tree') (place : Place) (node : Node) :
    SameBut hidden (tree.set place node) (tree'.set place node) where
  workdir := h.workdir
  node := by
    intro other hother
    by_cases hroot : other = []
    · subst hroot
      rfl
    · by_cases hsame : other = place
      · subst hsame
        rw [node?_set_self hroot, node?_set_self hroot]
      · rw [node?_set_of_ne hsame, node?_set_of_ne hsame, h.node hother]

section

variable (h : SameBut hidden tree tree') (hmiss : tree.Misses hidden path)

include h hmiss

-- ============================================================= reading

theorem walk (intent : Intent) :
    tree'.walk intent path = tree.walk intent path :=
  walk_eq_of_sights h.workdir (fun place hplace => h.node (hmiss place hplace))
    intent

theorem locate : tree'.locate path = tree.locate path := by
  unfold FileTree.locate
  rw [h.walk hmiss]

theorem size : tree'.size path = tree.size path := by
  unfold FileTree.size
  rw [h.locate hmiss]

theorem read : tree'.read path = tree.read path := by
  unfold FileTree.read
  rw [h.locate hmiss]

theorem canonical : tree'.canonical path = tree.canonical path := by
  unfold FileTree.canonical
  rw [h.locate hmiss]

theorem isDirectory : tree'.isDirectory path = tree.isDirectory path := by
  unfold FileTree.isDirectory
  rw [h.locate hmiss]

-- ============================================================= writing

/-- A file is written to the same place. -/
theorem write (content : Bytes) :
    Ends Eq (SameBut hidden) (tree.write path content)
      (tree'.write path content) := by
  unfold FileTree.write targetPlace
  rw [h.walk hmiss]
  cases tree.walk .createFile path with
  | error fault => exact .error rfl
  | ok spot =>
    cases spot with
    | found place node => exact .ok (h.set place _)
    | free place => exact .ok (h.set place _)

/-- A directory is made at the same place. -/
theorem makeDirectory :
    Ends Eq (SameBut hidden) (tree.makeDirectory path)
      (tree'.makeDirectory path) := by
  unfold FileTree.makeDirectory
  rw [h.walk hmiss]
  cases tree.walk .createDirectory path with
  | error fault => exact .error rfl
  | ok spot =>
    cases spot with
    | found place node => exact .error rfl
    | free place => exact .ok (h.set place _)

end

/-- A climb only changes the tree when it ends. -/
theorem climb (h : SameBut hidden tree tree') {paths : List String}
    (hmiss : ∀ path ∈ paths, tree.Misses hidden path) :
    Ends Eq (Besides hidden) (tree.climb paths) (tree'.climb paths) := by
  induction paths with
  | nil => exact .ok ⟨h, rfl⟩
  | cons path above ih =>
    rw [List.forall_mem_cons] at hmiss
    obtain ⟨hmiss, habove⟩ := hmiss
    rw [FileTree.climb, FileTree.climb]
    split
    · exact .ok ⟨h, rfl⟩
    · rcases (h.makeDirectory hmiss).cases with
        ⟨made, made', hmake, hmake', hsame⟩ | ⟨fault, _, hmake, hmake', rfl⟩
      · rw [hmake, hmake']
        exact .ok ⟨hsame, rfl⟩
      · rw [hmake, hmake', h.isDirectory hmiss]
        cases fault with
        | missing =>
          rcases (ih habove).cases with
            ⟨⟨climbed, left⟩, ⟨climbed', left'⟩, hclimb, hclimb', hsame⟩
              | ⟨fault, _, hclimb, hclimb', rfl⟩
          · obtain rfl : left' = left := hsame.rest
            rw [hclimb, hclimb']
            exact .ok ⟨hsame.files, rfl⟩
          · rw [hclimb, hclimb']
            exact .error rfl
        | _ =>
          dsimp only
          split
          · exact .ok ⟨h, rfl⟩
          · exact .error rfl

/-- A row of directories is made at the same places, if nothing hidden is
seen in the end. -/
theorem makeEach {paths : List String} (h : SameBut hidden tree tree')
    (hmiss : ∀ path ∈ paths, (tree.makeEach paths).1.Misses hidden path) :
    Besides hidden (tree.makeEach paths) (tree'.makeEach paths) := by
  induction paths generalizing tree tree' with
  | nil => exact ⟨h, rfl⟩
  | cons path rest ih =>
    have hpath : tree.Misses hidden path :=
      (hmiss path (List.mem_cons_self ..)).of_kept
        (.of_grown (grown_makeEach _ tree))
    have hrest := fun p hp => hmiss p (List.mem_cons_of_mem _ hp)
    rw [FileTree.makeEach] at hrest ⊢
    rw [FileTree.makeEach]
    rcases (h.makeDirectory hpath).cases with
      ⟨made, made', hmake, hmake', hsame⟩ | ⟨fault, _, hmake, hmake', rfl⟩
    · rw [hmake] at hrest ⊢
      rw [hmake']
      exact ih hsame hrest
    · rw [hmake] at hrest ⊢
      rw [hmake', h.isDirectory hpath]
      dsimp only at hrest ⊢
      split at hrest
      · next hthere =>
        rw [if_pos hthere, if_pos hthere]
        exact ih h hrest
      · next hthere =>
        rw [if_neg hthere, if_neg hthere]
        exact ⟨h, rfl⟩

/-- Directories are made at the same places, if their path sees nothing
hidden in the end. -/
theorem makeDirectories (h : SameBut hidden tree tree')
    (hmiss : (tree.makeDirectories path).1.Misses hidden path) :
    Besides hidden (tree.makeDirectories path)
      (tree'.makeDirectories path) := by
  have hclimbs : ∀ up ∈ Path.ancestors path, tree.Misses hidden up :=
    fun up hup => hmiss.before (.of_grown (grown_makeDirectories path tree))
      (Path.above_of_mem_ancestors hup)
  unfold FileTree.makeDirectories at hmiss ⊢
  split
  · exact ⟨h, rfl⟩
  · next hempty =>
    rw [if_neg hempty] at hmiss
    rcases (h.climb hclimbs).cases with
      ⟨⟨climbed, left⟩, ⟨climbed', left'⟩, hclimb, hclimb', hsame⟩
        | ⟨fault, _, hclimb, hclimb', rfl⟩
    · obtain rfl : left' = left := hsame.rest
      rw [hclimb] at hmiss ⊢
      rw [hclimb']
      refine hsame.files.makeEach fun up hup => ?_
      exact hmiss.before (.refl _)
        (Path.above_of_mem_ancestors ((grown_climb hclimb).2 up hup))
    · rw [hclimb, hclimb']
      exact ⟨h, rfl⟩

end SameBut

end FileTree

-- ============================================================ operations

variable {α : Type} {hidden : Place → Prop} {scene scene' : Scene}

/-- Two scenes are the same but for files at hidden places. -/
structure Scene.SameBut (hidden : Place → Prop) (scene scene' : Scene) :
    Prop where
  files : FileTree.SameBut hidden scene.files scene'.files
  rest : scene' = { scene with files := scene'.files }

theorem Scene.SameBut.withFiles (h : scene.SameBut hidden scene')
    {files files' : FileTree} (hfiles : FileTree.SameBut hidden files files') :
    ({ scene with files } : Scene).SameBut hidden
      { scene' with files := files' } :=
  ⟨hfiles, congrArg (fun s => { s with files := files' }) h.rest⟩

/-- Two outcomes are the same but for files at hidden places. -/
structure Outcome.SameBut (hidden : Place → Prop) {α : Type}
    (out out' : Outcome α) : Prop where
  result : out'.result = out.result
  scene : out.scene.SameBut hidden out'.scene
  events : out'.events = out.events

/-- An operation is blind to files: it does the same whatever they are,
and passes them on. -/
def Blind (operation : Scene → Outcome α) : Prop :=
  ∀ scene files, operation { scene with files }
    = { operation scene with
        scene := { (operation scene).scene with files } }

/-- What a blind operation comes to does not depend on hidden places. -/
theorem Blind.sameBut {operation : Scene → Outcome α}
    (hblind : Blind operation) (h : scene.SameBut hidden scene') :
    (operation scene).SameBut hidden (operation scene') := by
  have hself : (operation scene).scene.files = scene.files :=
    congrArg (·.scene.files) (hblind scene scene.files)
  rw [h.rest, hblind scene scene'.files]
  refine ⟨rfl, ⟨?_, rfl⟩, rfl⟩
  rw [hself]
  exact h.files

/-- Reaching the database takes no files. -/
theorem Scene.query_files (scene : Scene) (files : FileTree)
    (use : Database → Except DatabaseFault α) :
    ({ scene with files } : Scene).query use = scene.query use :=
  rfl

theorem Scene.query_later_files (scene : Scene) (files : FileTree)
    (use : Database → Except DatabaseFault α) :
    ({ scene with files } : Scene).later.query use = scene.later.query use :=
  rfl

namespace Depot

open FileTree (Kept Misses)
open Scene (query_files query_later_files)

variable (d : Depot) (l : Location)

theorem blind_provision : Blind d.provision := by
  intro scene files
  unfold Depot.provision FileDepot.provision
  cases TableName.ofText d.table.text with
  | error fault => rfl
  | ok name =>
    obtain ⟨_, _, _, _, _ | outage, _⟩ := scene <;> rfl

theorem blind_describe : Blind (d.describe l) := by
  intro scene files
  have hlook : d.lookUp l { scene with files } = d.lookUp l scene := rfl
  unfold describe
  rw [hlook]
  cases d.lookUp l scene <;> rfl

theorem blind_expire (bucket : String) (days : Nat) :
    Blind (d.expire bucket days) := by
  intro scene files
  unfold expire
  dsimp only
  rw [query_files]
  cases scene.query _ <;> rfl

theorem replaceAtOnce_files (draft : Draft) (scene : Scene)
    (files : FileTree) :
    d.replaceAtOnce l draft { scene with files }
      = ((d.replaceAtOnce l draft scene).1,
        { (d.replaceAtOnce l draft scene).2 with files }) := by
  unfold replaceAtOnce
  dsimp only
  rw [query_files]
  cases scene.query _ <;> rfl

theorem clear_files (scene : Scene) (files : FileTree) :
    d.clear l { scene with files }
      = ({ (d.clear l scene).1 with files }, (d.clear l scene).2) := by
  unfold clear
  rw [query_files]
  cases scene.query _ <;> rfl

theorem insert_files (draft : Draft) (scene : Scene) (files : FileTree) :
    d.insert draft { scene with files }
      = ((d.insert draft scene).1,
        { (d.insert draft scene).2 with files }) := by
  unfold insert
  rw [query_later_files]
  cases scene.later.query _ <;> rfl

theorem blind_replace (draft : Draft) : Blind (d.replace l draft) := by
  intro scene files
  unfold replace
  split
  · rw [replaceAtOnce_files]
  · rw [clear_files]
    dsimp only
    rw [insert_files]

-- ================================================== stores, downloads

/-- The draft of a file is the same. -/
theorem draft_same (h : scene.SameBut hidden scene') {file : String}
    (hmiss : scene.files.Misses hidden file) :
    d.draft scene' l file = d.draft scene l file := by
  rw [h.rest]
  unfold draft
  rw [h.files.size hmiss, h.files.read hmiss, h.files.canonical hmiss]

/-- So is the file that is stored. -/
theorem store_sameBut (h : scene.SameBut hidden scene') {file : String}
    (hmiss : scene.files.Misses hidden file) :
    (d.store l file scene).SameBut hidden (d.store l file scene') := by
  unfold store
  rw [d.draft_same l h hmiss]
  cases d.draft scene l file with
  | error failure => exact ⟨rfl, h, rfl⟩
  | ok draft =>
    have hreplace := (d.blind_replace l draft).sameBut h
    dsimp only
    rw [hreplace.result]
    cases (d.replace l draft scene).result with
    | ok done =>
      exact ⟨rfl, hreplace.scene, congrArg (· ++ _) hreplace.events⟩
    | error failure =>
      exact ⟨rfl, hreplace.scene, congrArg (· ++ _) hreplace.events⟩

/-- Room for a target is made at the same places. -/
theorem makeRoom_besides {files files' : FileTree} {target : String}
    (h : FileTree.SameBut hidden files files')
    (hmiss : (makeRoom files target).1.Misses hidden target) :
    FileTree.Besides hidden (makeRoom files target)
      (makeRoom files' target) := by
  unfold makeRoom at hmiss ⊢
  cases hup : Path.parent? target with
  | none => exact ⟨h, rfl⟩
  | some directory =>
    rw [hup] at hmiss
    dsimp only at hmiss ⊢
    split
    · exact ⟨h, rfl⟩
    · next hempty =>
      rw [if_neg hempty] at hmiss
      have hmake := h.makeDirectories
        (hmiss.before (.refl _) (Path.above_of_parent? hup))
      exact ⟨hmake.files, congrArg (Option.map _) hmake.rest⟩

/-- A payload is written to the same place. -/
theorem deliver_sameBut {files files' : FileTree} (r : Record)
    {target : String} (h : FileTree.SameBut hidden files files')
    (hmiss : files.Misses hidden target) :
    (d.deliver r target files').1 = (d.deliver r target files).1
      ∧ FileTree.SameBut hidden (d.deliver r target files).2
        (d.deliver r target files').2 := by
  unfold deliver
  dsimp only
  rcases (h.write hmiss _).cases with
    ⟨written, written', hwrite, hwrite', hsame⟩
      | ⟨fault, _, hwrite, hwrite', rfl⟩
  · rw [hwrite, hwrite']
    dsimp only
    split <;> exact ⟨rfl, hsame⟩
  · rw [hwrite, hwrite']
    exact ⟨rfl, h⟩

theorem fetch_sameBut (h : scene.SameBut hidden scene') {target : String}
    (hmiss : scene.files.Misses hidden target) :
    (d.fetch l target scene').1 = (d.fetch l target scene).1
      ∧ FileTree.SameBut hidden (d.fetch l target scene).2
        (d.fetch l target scene').2 := by
  unfold fetch
  rw [h.rest, query_files]
  cases scene.query _ with
  | error failure => exact ⟨rfl, h.files⟩
  | ok found =>
    cases found with
    | none => exact ⟨rfl, h.files⟩
    | some r =>
      obtain ⟨hresult, hfiles⟩ := d.deliver_sameBut r h.files hmiss
      exact ⟨congrArg (Except.map _) hresult, hfiles⟩

/-- A download is made to the same places, if its target sees nothing
hidden in the end. -/
theorem download_sameBut (h : scene.SameBut hidden scene') {target : String}
    (hmiss : (d.download l target scene).scene.files.Misses hidden target) :
    (d.download l target scene).SameBut hidden
      (d.download l target scene') := by
  have hroom := makeRoom_besides h.files
    (hmiss.of_kept (d.kept_room l target scene))
  have hmiss' := hmiss.of_kept (d.kept_room l target scene)
  unfold download
  generalize makeRoom scene.files target = made at hroom hmiss' ⊢
  generalize makeRoom scene'.files target = made' at hroom ⊢
  obtain ⟨room, failure⟩ := made
  obtain ⟨room', failure'⟩ := made'
  obtain rfl : failure' = failure := hroom.rest
  have hscene := h.withFiles hroom.files
  cases failure' with
  | some failure => exact ⟨rfl, hscene, rfl⟩
  | none =>
    obtain ⟨hresult, hfiles⟩ := d.fetch_sameBut l hscene hmiss'
    dsimp only at hresult ⊢
    rw [hresult]
    split <;> exact ⟨rfl, h.withFiles hfiles, rfl⟩

end Depot

-- ============================================================ commands

/-- Two commands are served alike but for files at hidden places. -/
structure Served.SameBut (hidden : Place → Prop) (v v' : Served) :
    Prop where
  reply : v'.reply = v.reply
  scene : v.scene.SameBut hidden v'.scene
  events : v'.events = v.events

theorem Outcome.SameBut.served {out out' : Outcome α}
    (h : out.SameBut hidden out') (reply : Except Failure α → Reply) :
    (out.served reply).SameBut hidden (out'.served reply) :=
  ⟨congrArg reply h.result, h.scene, h.events⟩

/-- What the operation of a command comes to does not depend on hidden
places, if its paths see none of them in the end. -/
theorem Depot.operate_sameBut (d : Depot) (h : scene.SameBut hidden scene')
    {c : CommandLine.Command}
    (hmiss : ∀ path ∈ c.named,
      (d.operate scene c).scene.files.Misses hidden path) :
    (d.operate scene c).SameBut hidden (d.operate scene' c) := by
  have hbefore : ∀ path ∈ c.named,
      scene.files.Misses hidden path := fun path hpath =>
    (hmiss path hpath).of_kept (d.passes_operate scene c).kept
  unfold operate at hmiss ⊢
  cases c with
  | store l file =>
    exact (d.store_sameBut l h
      (hbefore file (List.mem_singleton_self file))).served _
  | download l target =>
    exact (d.download_sameBut l h
      (hmiss target (List.mem_singleton_self target))).served _
  | describe l => exact ((d.blind_describe l).sameBut h).served _
  | clean bucket days =>
    exact ((d.blind_expire bucket days).sameBut h).served _
  | initSchema => exact (d.blind_provision.sameBut h).served _

end FileDepot
