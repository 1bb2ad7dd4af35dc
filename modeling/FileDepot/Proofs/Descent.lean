/-
Walking on by one name from where the parent of a path leads.

A walk to a plain path goes the way of a walk to its parent, with one
name more in the parts that are left. Slashes at ends only matter there,
so the two walks are compared by the names in their parts
(`walkParts_beyond`); they follow the same links, because a link takes
the parts left with it. Behind the parent only the last name is left
(`walk_beyond`).

In a directory that is empty this name is free, so nothing is found
there and a directory can be made (`LeadsToEmpty.walk`).
-/
import FileDepot.Proofs.Growth
import FileDepot.Proofs.Path

namespace FileDepot

namespace FileTree

variable {tree : FileTree} {path up : String} {there : Place}

-- ======================================================== the way on

/-- The parts left are the names of a link's target and those behind
it. -/
theorem splice_eq (target : String) {rest : List String} (h : rest ≠ []) :
    splice target rest = Path.names target ++ rest := by
  obtain ⟨tail, htail, hparts⟩ := Path.parts_eq target
  have hrest : rest.isEmpty = false := by simpa using h
  unfold splice
  simp only [hrest, hparts, Bool.false_eq_true, if_false]
  rcases htail with rfl | rfl
  · rw [List.append_nil, if_neg]
    intro hlast
    exact Path.ne_empty_of_mem_names (List.mem_of_getLast? hlast) rfl
  · simp

theorem filter_splice (target : String) (rest : List String) :
    (splice target rest).filter (· ≠ "")
      = Path.names target ++ rest.filter (· ≠ "") := by
  by_cases h : rest = []
  · subst h
    rw [← Path.filter_parts]
    simp [splice]
  · rw [splice_eq target h, List.filter_append, ← Path.filter_parts,
      List.filter_filter]
    simp

/-- How a walk that leads to a directory starts. Its last step is no
different from the others: it goes on in the directory it comes to, with
no names left. -/
inductive Enters (tree : FileTree) (onLink : OnLink) (there here : Place)
    (part : String) (rest : List String) : Prop
  | dots (hdots : isDots part = true)
      (hrest : tree.walkParts .follow onLink (afterDots here part) rest
        = .ok (.found there .directory))
  | directory (hdots : isDots part = false)
      (hlong : ¬maxName < part.utf8ByteSize)
      (hn : tree.node? (here ++ [part]) = some .directory)
      (hrest : tree.walkParts .follow onLink (here ++ [part]) rest
        = .ok (.found there .directory))
  | link (hdots : isDots part = false)
      (hlong : ¬maxName < part.utf8ByteSize) {target : String}
      (hn : tree.node? (here ++ [part]) = some (.link target))
      (hl : onLink here target rest = .ok (.found there .directory))

/-- A walk stays in a directory when no names are left. -/
theorem walkParts_stay (onLink : OnLink) (slashed : Bool) (here : Place) :
    tree.walkParts .follow onLink here (if slashed then [""] else [])
      = .ok (.found here .directory) := by
  cases slashed <;> rfl

theorem enters_of_walkParts {onLink : OnLink} {here : Place}
    {part : String} {rest : List String}
    (h : tree.walkParts .follow onLink here (part :: rest)
      = .ok (.found there .directory)) :
    tree.Enters onLink there here part rest := by
  cases starts_of_walkParts h with
  | dots hne hend hdots h => exact .dots hdots h
  | directory hne hend hdots hlong hn h =>
      exact .directory hdots hlong hn h
  | link hne hend hdots hlong target hn h => exact .link hdots hlong hn h
  | last slashed hrest h =>
      -- behind the last part no names are left
      have hstay : ∀ place, tree.walkParts .follow onLink place rest
          = .ok (.found place .directory) := by
        rw [hrest]
        exact walkParts_stay onLink slashed
      cases follows_of_arrive h with
      | dots hdots => exact .dots hdots (hstay _)
      | directory hdots hlong hn =>
          exact .directory hdots hlong hn (hstay _)
      | link hdots hlong target hn h =>
          rw [← hrest] at h
          exact .link hdots hlong hn h

variable {intent : Intent} {name : String} {tail : List String}

/-- Where a walk leads to a directory, one that has a name more goes on
from there, if the walks through links do. -/
theorem walkParts_beyond (hname : name ≠ "") {onLink onLink' : OnLink}
    {parts : List String} {here : Place}
    (hlink : ∀ {here target rest},
      onLink here target rest = .ok (.found there .directory) →
        ∃ onEnd, onLink' here target (rest.filter (· ≠ "") ++ name :: tail)
          = tree.walkParts intent onEnd there (name :: tail))
    (h : tree.walkParts .follow onLink here parts
      = .ok (.found there .directory)) :
    ∃ onEnd, tree.walkParts intent onLink' here
        (parts.filter (· ≠ "") ++ name :: tail)
      = tree.walkParts intent onEnd there (name :: tail) := by
  induction parts generalizing here with
  | nil =>
      have hthere : here = there := by
        injection h with h
        injection h with h
      subst hthere
      exact ⟨onLink', rfl⟩
  | cons part rest ih =>
      have henters := enters_of_walkParts h
      by_cases hempty : part = ""
      · -- an empty part is passed over
        subst hempty
        cases henters with
        | dots hdots hrest => exact ih hrest
        | directory hdots => cases hdots
        | link hdots => cases hdots
      · have hkeep : (part :: rest).filter (· ≠ "")
            = part :: rest.filter (· ≠ "") := by simp [hempty]
        have hnot : rest.filter (· ≠ "") ++ name :: tail ≠ [""] := by
          intro hone
          have hmem : name ∈ [""] := by
            rw [← hone]
            simp
          exact hname (List.mem_singleton.mp hmem)
        rw [hkeep, List.cons_append, walkParts_cons (by simp) hnot]
        cases henters with
        | dots hdots hrest =>
            rw [if_pos hdots]
            exact ih hrest
        | directory hdots hlong hn hrest =>
            rw [if_neg (by simp [hdots]), if_neg hlong, hn]
            exact ih hrest
        | link hdots hlong hn hl =>
            rw [if_neg (by simp [hdots]), if_neg hlong, hn]
            exact hlink hl

theorem walkLinks_beyond (intent : Intent) (tail : List String)
    (hname : name ≠ "") {links : Nat} {parts : List String} {here : Place}
    (h : tree.walkLinks .follow links here parts
      = .ok (.found there .directory)) :
    ∃ onEnd, tree.walkLinks intent links here
        (parts.filter (· ≠ "") ++ name :: tail)
      = tree.walkParts intent onEnd there (name :: tail) := by
  induction links generalizing here parts with
  | zero =>
      rw [walkLinks] at h ⊢
      exact walkParts_beyond hname (fun hl => by cases hl) h
  | succ links ih =>
      rw [walkLinks] at h ⊢
      refine walkParts_beyond hname (fun {here target rest} hl => ?_) h
      split at hl
      · cases hl
      · next htarget =>
        rw [if_neg htarget, splice_eq target (by simp),
          ← List.append_assoc, ← filter_splice]
        exact ih hl

/-- A plain path is walked to its parent and on by one name, unless it is
too long to be walked at all. -/
theorem walk_beyond (hplain : Path.IsPlain path)
    (hup : Path.parent? path = some up)
    (h : tree.walk .follow up = .ok (.found there .directory))
    (intent : Intent) :
    (∃ name tail onEnd, isDots name = false ∧ (tail = [] ∨ tail = [""])
        ∧ tree.walk intent path
          = tree.walkParts intent onEnd there (name :: tail))
      ∨ ∃ fault, tree.walk intent path = .error fault
        ∧ fault ≠ .exists := by
  obtain ⟨⟨name, hnames⟩, -, habsolute⟩ := Path.parent?_plain hplain hup
  obtain ⟨tail, htail, hparts⟩ := Path.parts_eq path
  have hmem : name ∈ Path.names path := by simp [hnames]
  obtain ⟨hlinks, -⟩ := walk_ok h tree rfl .follow
  have hnonempty : path.isEmpty = false := by
    rw [Bool.eq_false_iff]
    intro hempty
    rw [String.isEmpty_iff.mp hempty] at hmem
    cases hmem
  unfold walk
  split
  · exact .inr ⟨_, rfl, by simp⟩
  · rw [if_neg (by simp [hnonempty])]
    split
    · exact .inr ⟨_, rfl, by simp⟩
    · obtain ⟨onEnd, hend⟩ := walkLinks_beyond intent tail
        (Path.ne_empty_of_mem_names hmem) hlinks
      rw [Path.filter_parts, habsolute] at hend
      refine .inl ⟨name, tail, onEnd, hplain.isDots name hmem, htail, ?_⟩
      rw [hparts, hnames, List.append_assoc, List.singleton_append, hend]

-- ========================================================= new ground

/-- The last step to a free place. -/
theorem arrive_free {onLink : OnLink} {here : Place}
    (hdots : isDots name = false)
    (hn : tree.node? (here ++ [name]) = none)
    (hi : intent = .follow ∨ intent = .createDirectory) (slashed : Bool) :
    tree.arrive intent onLink here name slashed
      = if maxName < name.utf8ByteSize then .error .nameTooLong
        else if intent = .follow then .error .missing
        else .ok (.free (here ++ [name])) := by
  unfold arrive
  dsimp only
  rw [hn]
  rcases hi with rfl | rfl <;> simp [hdots]

/-- Beyond an empty directory nothing is found and a directory can be
made, unless its path is too long. -/
theorem LeadsToEmpty.walk (h : tree.LeadsToEmpty up)
    (hplain : Path.IsPlain path) (hup : Path.parent? path = some up)
    (hi : intent = .follow ∨ intent = .createDirectory) :
    (∃ place, intent ≠ .follow ∧ tree.walk intent path = .ok (.free place))
      ∨ ∃ fault, tree.walk intent path = .error fault
        ∧ fault ≠ .exists := by
  obtain ⟨there, hwalk, hempty⟩ := h
  rcases walk_beyond hplain hup hwalk intent with
    ⟨name, tail, onEnd, hdots, htail, heq⟩ | ⟨fault, heq, hfault⟩
  · have hlast : ∃ slashed, tree.walk intent path
        = tree.arrive intent onEnd there name slashed := by
      rw [heq]
      rcases htail with rfl | rfl
      · exact ⟨false, rfl⟩
      · exact ⟨true, rfl⟩
    obtain ⟨slashed, hlast⟩ := hlast
    rw [hlast, arrive_free hdots (hempty name) hi]
    split
    · exact .inr ⟨_, rfl, by simp⟩
    · split
      · exact .inr ⟨_, rfl, by simp⟩
      · next hnot => exact .inl ⟨_, hnot, rfl⟩
  · exact .inr ⟨fault, heq, hfault⟩

theorem LeadsToEmpty.makeDirectory (h : tree.LeadsToEmpty up)
    (hplain : Path.IsPlain path) (hup : Path.parent? path = some up) :
    (∃ tree', tree.makeDirectory path = .ok tree')
      ∨ ∃ fault, tree.makeDirectory path = .error fault
        ∧ fault ≠ .exists := by
  unfold FileTree.makeDirectory
  rcases h.walk hplain hup (.inr rfl) with
    ⟨place, -, hw⟩ | ⟨fault, hw, hfault⟩
  · rw [hw]
    exact .inl ⟨_, rfl⟩
  · rw [hw]
    exact .inr ⟨fault, rfl, hfault⟩

theorem LeadsToEmpty.locate (h : tree.LeadsToEmpty up)
    (hplain : Path.IsPlain path) (hup : Path.parent? path = some up) :
    ∃ fault, tree.locate path = .error fault := by
  unfold FileTree.locate
  rcases h.walk hplain hup (.inl rfl) with
    ⟨place, hnot, -⟩ | ⟨fault, hw, -⟩
  · exact absurd rfl hnot
  · rw [hw]
    exact ⟨fault, rfl⟩

end FileTree

end FileDepot
