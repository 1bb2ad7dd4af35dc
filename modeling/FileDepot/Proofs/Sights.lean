/-
The places a path sees.

A walk looks at the entries that its path names, one after another, and
behind a link at those that the target names. These are all the places
it depends on: two trees with the same at each of them, and the same
directory to start from, let a path lead to the same, whatever it is
wanted for (`walk_eq_of_sights`).

A path sees whatever the paths above it see (`sights_above`), and it
goes on seeing it while the tree is kept (`Kept.sights`). So what is
said of the places that a path sees at the end of a run holds at every
step on the way there.
-/
import FileDepot.Proofs.Descent
import FileDepot.Proofs.Reopening

namespace FileDepot

namespace Path

-- ============================================================= above

/-- A path lies above another: it starts where the other does, and its
names are the first ones of the other. -/
structure Above (up path : String) : Prop where
  names : Path.names up <+: Path.names path
  absolute : isAbsolute up = isAbsolute path

namespace Above

theorem refl (path : String) : Above path path := ⟨List.prefix_rfl, rfl⟩

theorem trans {top up path : String} (h : Above top up)
    (h' : Above up path) : Above top path :=
  ⟨h.names.trans h'.names, h.absolute.trans h'.absolute⟩

end Above

/-- Trimming the end of a text leaves the first of its names, and how it
starts. -/
theorem trimEnd_above (rs : List Char) :
    nameChars (trimEnd rs).reverse <+: nameChars rs.reverse
      ∧ (trimEnd rs).getLast? = rs.getLast? := by
  fun_induction trimEnd rs with
  | case1 => exact ⟨List.prefix_rfl, rfl⟩
  | case2 rest hrest ih =>
    rw [List.reverse_cons, nameChars_append_slash, nameChars_nil,
      List.append_nil, List.getLast?_cons_of_ne_nil hrest]
    exact ih
  | case3 => exact ⟨List.nil_prefix, rfl⟩
  | case4 rest hrest ih =>
    have hnames : nameChars ('.' :: '/' :: rest).reverse
        = nameChars rest.reverse ++ nameChars ['.'] := by
      rw [← nameChars_append_slash]
      simp
    rw [hnames, List.getLast?_cons_cons,
      List.getLast?_cons_of_ne_nil hrest]
    exact ⟨ih.1.trans (List.prefix_append ..), ih.2⟩
  | case5 => exact ⟨List.prefix_rfl, rfl⟩

/-- Cutting off what stands behind the last slash of a text leaves the
first of its names, and a slash at the start. -/
theorem dropName_above (cs : List Char) :
    nameChars (cs.dropWhile (· != '/')).reverse <+: nameChars cs.reverse
      ∧ ((cs.dropWhile (· != '/')).getLast? == some '/')
        = (cs.getLast? == some '/') := by
  have hsplit := List.takeWhile_append_dropWhile (p := (· != '/')) (l := cs)
  have hhead := List.head?_dropWhile_not (· != '/') cs
  have hname : (cs.takeWhile (· != '/')).all (· != '/') = true :=
    List.all_takeWhile
  rw [List.all_eq_true] at hname
  generalize cs.takeWhile (· != '/') = name at hsplit hname
  generalize cs.dropWhile (· != '/') = front at hsplit hhead
  subst hsplit
  cases front with
  | nil =>
    refine ⟨List.nil_prefix, ?_⟩
    rw [List.append_nil]
    cases hlast : name.getLast? with
    | none => rfl
    | some c => simpa using hname c (List.mem_of_getLast? hlast)
  | cons c rest =>
    obtain rfl : c = '/' := by simpa using hhead
    rw [List.getLast?_append, List.getLast?_cons, Option.some_or,
      List.reverse_append, List.reverse_cons, List.append_assoc,
      List.singleton_append, nameChars_append_slash,
      nameChars_append_slash, nameChars_nil, List.append_nil]
    exact ⟨List.prefix_append .., rfl⟩

/-- The parent of a path lies above it. -/
theorem above_of_parent? {path up : String} (h : parent? path = some up) :
    Above up path := by
  have htrim := trimEnd_above path.toList.reverse
  unfold parent? at h
  split at h
  · cases h
  · cases h
  · generalize trimEnd path.toList.reverse = cs at h htrim
    have hdrop := dropName_above cs
    generalize cs.dropWhile (· != '/') = front at h hdrop
    have hfront := trimEnd_above front
    rw [List.reverse_reverse, List.getLast?_reverse] at htrim
    rw [← Option.some.inj h]
    constructor
    · unfold Path.names
      rw [String.toList_ofList]
      exact ((hfront.1.trans hdrop.1).trans htrim.1).map _
    · unfold isAbsolute
      rw [String.toList_ofList, List.head?_reverse, hfront.2, hdrop.2,
        htrim.2]

/-- So do all that are climbed to from it. -/
theorem above_of_mem_ancestorsGo {n : Nat} {path up : String}
    (h : up ∈ ancestorsGo n path) : Above up path := by
  induction n generalizing path with
  | zero =>
    rw [List.mem_singleton.mp h]
    exact .refl path
  | succ n ih =>
    rw [ancestorsGo] at h
    cases hparent : parent? path with
    | none =>
      rw [hparent] at h
      rw [List.mem_singleton.mp h]
      exact .refl path
    | some next =>
      rw [hparent] at h
      rcases List.mem_cons.mp h with rfl | h
      · exact .refl _
      · exact (ih h).trans (above_of_parent? hparent)

theorem above_of_mem_ancestors {path up : String}
    (h : up ∈ ancestors path) : Above up path :=
  above_of_mem_ancestorsGo h

end Path

namespace FileTree

variable {tree tree' : FileTree} {path : String}

-- ============================================================ sights

/-- The places that names see from a directory. Behind a link it is left
to `through` what is seen with the names that are left. -/
def seen (tree : FileTree)
    (through : Place → String → List String → List Place) :
    Place → List String → List Place
  | _, [] => []
  | here, name :: rest =>
    if isDots name then seen tree through (afterDots here name) rest
    else
      (here ++ [name]) ::
        match tree.node? (here ++ [name]) with
        | some .directory => seen tree through (here ++ [name]) rest
        | some (.link target) => through here target rest
        | some (.file _) | none => []

/-- The places that names see with so many links left to follow. -/
def seenLinks (tree : FileTree) : Nat → Place → List String → List Place
  | 0 => tree.seen fun _ _ _ => []
  | links + 1 =>
    tree.seen fun here target rest =>
      seenLinks tree links (if Path.isAbsolute target then [] else here)
        (Path.names target ++ rest)

/-- The places that a path sees. -/
def sights (tree : FileTree) (path : String) : List Place :=
  tree.seenLinks maxLinks
    (if Path.isAbsolute path then [] else tree.workdir) (Path.names path)

-- ====================================================== the same walk

variable {intent : Intent} {onLink onLink' : OnLink} {here : Place}
  {through through' : Place → String → List String → List Place}

/-- The last step of a walk depends on the entry it names. -/
theorem arrive_eq_of_node {part : String} {slashed : Bool}
    (hn : tree'.node? (here ++ [part]) = tree.node? (here ++ [part]))
    (hlink : ∀ target, tree.node? (here ++ [part]) = some (.link target) →
      onLink' here target (if slashed then [""] else [])
        = onLink here target (if slashed then [""] else [])) :
    tree'.arrive intent onLink' here part slashed
      = tree.arrive intent onLink here part slashed := by
  unfold arrive
  dsimp only
  rw [hn]
  cases hnode : tree.node? (here ++ [part]) with
  | none => cases intent <;> rfl
  | some node =>
    cases node with
    | directory => cases intent <;> rfl
    | file content => cases intent <;> rfl
    | link target =>
      have hl := hlink target hnode
      cases intent <;> simp only [hl]

/-- A walk depends on the places that its names see, if the walks through
links do. -/
theorem walkParts_eq_of_seen {parts : List String}
    (hlink : ∀ here target rest,
      (∀ place ∈ through here target (rest.filter (· ≠ "")),
        tree'.node? place = tree.node? place) →
      onLink' here target rest = onLink here target rest)
    (h : ∀ place ∈ tree.seen through here (parts.filter (· ≠ "")),
      tree'.node? place = tree.node? place) :
    tree'.walkParts intent onLink' here parts
      = tree.walkParts intent onLink here parts := by
  induction parts generalizing here with
  | nil => rfl
  | cons part rest ih =>
    by_cases hdots : isDots part = true
    · -- dots name no entry, and an empty part is none of the names
      have hrest : ∀ place ∈ tree.seen through (afterDots here part)
          (rest.filter (· ≠ "")), tree'.node? place = tree.node? place := by
        by_cases hempty : part = ""
        · subst hempty
          exact h
        · rw [List.filter_cons_of_pos (by simpa using hempty), seen,
            if_pos hdots] at h
          exact h
      by_cases hne : rest = []
      · subst hne
        simp only [walkParts, arrive, hdots, if_true]
      · by_cases hend : rest = [""]
        · subst hend
          simp only [walkParts, arrive, hdots, and_self, if_true]
        · rw [walkParts_cons hne hend, walkParts_cons hne hend,
            if_pos hdots, if_pos hdots]
          exact ih hrest
    · have hempty : part ≠ "" := by
        rintro rfl
        exact hdots rfl
      rw [List.filter_cons_of_pos (by simpa using hempty), seen,
        if_neg hdots, List.forall_mem_cons] at h
      obtain ⟨hn, h⟩ := h
      have hthrough : ∀ target,
          tree.node? (here ++ [part]) = some (.link target) →
            onLink' here target rest = onLink here target rest := by
        intro target hnode
        rw [hnode] at h
        exact hlink here target rest h
      by_cases hne : rest = []
      · subst hne
        exact arrive_eq_of_node hn hthrough
      · by_cases hend : rest = [""]
        · subst hend
          exact arrive_eq_of_node hn hthrough
        · rw [walkParts_cons hne hend, walkParts_cons hne hend,
            if_neg hdots, if_neg hdots, hn]
          cases hnode : tree.node? (here ++ [part]) with
          | none => rfl
          | some node =>
            cases node with
            | directory =>
              rw [hnode] at h
              dsimp only
              rw [ih h]
            | file content => rfl
            | link target =>
              dsimp only
              rw [hthrough target hnode]

theorem walkLinks_eq_of_seen {links : Nat} {parts : List String}
    (h : ∀ place ∈ tree.seenLinks links here (parts.filter (· ≠ "")),
      tree'.node? place = tree.node? place) :
    tree'.walkLinks intent links here parts
      = tree.walkLinks intent links here parts := by
  induction links generalizing here parts with
  | zero =>
    rw [walkLinks, walkLinks]
    exact walkParts_eq_of_seen (fun _ _ _ _ => rfl) h
  | succ links ih =>
    rw [walkLinks, walkLinks]
    refine walkParts_eq_of_seen (fun here target rest hseen => ?_) h
    rw [← filter_splice] at hseen
    rw [ih hseen]

/-- What a path leads to depends on the places that it sees. -/
theorem walk_eq_of_sights (hdir : tree'.workdir = tree.workdir)
    (h : ∀ place ∈ tree.sights path,
      tree'.node? place = tree.node? place) (intent : Intent) :
    tree'.walk intent path = tree.walk intent path := by
  unfold walk
  unfold sights at h
  rw [← Path.filter_parts] at h
  rw [hdir, walkLinks_eq_of_seen h]

-- ======================================================= more is seen

/-- More names see more, and a tree that is kept goes on showing what it
showed, if that holds behind links. -/
theorem seen_mono (hkept : Kept tree tree') {names names' : List String}
    (hnames : names <+: names')
    (hthrough : ∀ here target {rest rest' : List String}, rest <+: rest' →
      through here target rest ⊆ through' here target rest') :
    tree.seen through here names ⊆ tree'.seen through' here names' := by
  induction names generalizing here names' with
  | nil => exact List.nil_subset _
  | cons name rest ih =>
    obtain ⟨more, rfl⟩ := hnames
    have hrest : rest <+: rest ++ more := List.prefix_append ..
    rw [List.cons_append, seen, seen]
    split
    · exact ih hrest
    · refine List.cons_subset_cons _ ?_
      cases hn : tree.node? (here ++ [name]) with
      | none => exact List.nil_subset _
      | some node =>
        cases node with
        | directory =>
          rw [hkept.directory hn]
          exact ih hrest
        | file content => exact List.nil_subset _
        | link target =>
          rw [hkept.link hn]
          exact hthrough here target hrest

theorem seenLinks_mono (hkept : Kept tree tree') {links : Nat}
    {names names' : List String} (hnames : names <+: names') :
    tree.seenLinks links here names ⊆ tree'.seenLinks links here names' := by
  induction links generalizing here names names' with
  | zero =>
    rw [seenLinks, seenLinks]
    exact seen_mono hkept hnames fun _ _ _ _ _ => List.nil_subset _
  | succ links ih =>
    rw [seenLinks, seenLinks]
    exact seen_mono hkept hnames fun _ target _ _ hrest =>
      ih ((List.prefix_append_right_inj _).mpr hrest)

/-- A tree that is kept goes on showing what it showed, and a path sees
what those above it see. -/
theorem Kept.sights (hkept : Kept tree tree') {up : String}
    (h : Path.Above up path) : tree.sights up ⊆ tree'.sights path := by
  unfold FileTree.sights
  rw [h.absolute, hkept.workdir]
  exact seenLinks_mono hkept h.names

end FileTree

end FileDepot
