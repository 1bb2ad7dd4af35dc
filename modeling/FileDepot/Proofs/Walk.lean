/-
What a walk that succeeds has done.

A walk goes from part to part. Of one that succeeds the first step is
known (`Starts`): it was the last step, or it went on at dots, in a
directory or through a link. This says all about the step, so a walk in
one tree is carried over to another by carrying over its steps, and
nothing else takes the walk apart.

The last step of a walk that follows is known in the same way
(`Follows`). Those of walks that create something are left to where
things are made.
-/
import FileDepot.FileTree.Walk
import FileDepot.Proofs.Path

namespace FileDepot.FileTree

variable {tree : FileTree} {intent : Intent} {onLink : OnLink}
  {here : Place} {part : String} {rest : List String} {spot : Spot}

-- ======================================================= step by step

/-- A step of a walk that is not its last. -/
theorem walkParts_cons (hne : rest ≠ []) (hend : rest ≠ [""]) :
    tree.walkParts intent onLink here (part :: rest)
      = if isDots part then
          tree.walkParts intent onLink (afterDots here part) rest
        else if maxName < part.utf8ByteSize then .error .nameTooLong
        else
          match tree.node? (here ++ [part]) with
          | none => .error .missing
          | some .directory =>
            tree.walkParts intent onLink (here ++ [part]) rest
          | some (.file _) => .error .notDirectory
          | some (.link target) => onLink here target rest := by
  cases rest with
  | nil => exact absurd rfl hne
  | cons next rest =>
      have hnot : ¬(next = "" ∧ rest = []) := by
        rintro ⟨rfl, rfl⟩
        exact hend rfl
      rw [walkParts]
      exact if_neg hnot

/-- How a walk to a spot starts. -/
inductive Starts (tree : FileTree) (intent : Intent) (onLink : OnLink)
    (here : Place) (part : String) (rest : List String) (spot : Spot) :
    Prop
  | last (slashed : Bool) (hrest : rest = if slashed then [""] else [])
      (h : tree.arrive intent onLink here part slashed = .ok spot)
  | dots (hne : rest ≠ []) (hend : rest ≠ [""])
      (hdots : isDots part = true)
      (h : tree.walkParts intent onLink (afterDots here part) rest
        = .ok spot)
  | directory (hne : rest ≠ []) (hend : rest ≠ [""])
      (hdots : isDots part = false) (hlong : ¬maxName < part.utf8ByteSize)
      (hn : tree.node? (here ++ [part]) = some .directory)
      (h : tree.walkParts intent onLink (here ++ [part]) rest = .ok spot)
  | link (hne : rest ≠ []) (hend : rest ≠ [""])
      (hdots : isDots part = false) (hlong : ¬maxName < part.utf8ByteSize)
      (target : String)
      (hn : tree.node? (here ++ [part]) = some (.link target))
      (h : onLink here target rest = .ok spot)

theorem starts_of_walkParts
    (h : tree.walkParts intent onLink here (part :: rest) = .ok spot) :
    tree.Starts intent onLink here part rest spot := by
  by_cases hne : rest = []
  · subst hne
    exact .last false rfl h
  · by_cases hend : rest = [""]
    · subst hend
      exact .last true rfl h
    · rw [walkParts_cons hne hend] at h
      split at h
      · next hdots => exact .dots hne hend hdots h
      · next hdots =>
        split at h
        · cases h
        · next hlong =>
          have hdots : isDots part = false := by simpa using hdots
          cases hn : tree.node? (here ++ [part]) with
          | none => rw [hn] at h; cases h
          | some node =>
              rw [hn] at h
              cases node with
              | directory => exact .directory hne hend hdots hlong hn h
              | file content => cases h
              | link target => exact .link hne hend hdots hlong target hn h

theorem walkParts_of_starts
    (h : tree.Starts intent onLink here part rest spot) :
    tree.walkParts intent onLink here (part :: rest) = .ok spot := by
  cases h with
  | last slashed hrest h =>
      rw [hrest]
      cases slashed <;> exact h
  | dots hne hend hdots h =>
      rw [walkParts_cons hne hend, if_pos hdots]
      exact h
  | directory hne hend hdots hlong hn h =>
      rw [walkParts_cons hne hend, if_neg (by simp [hdots]), if_neg hlong,
        hn]
      exact h
  | link hne hend hdots hlong target hn h =>
      rw [walkParts_cons hne hend, if_neg (by simp [hdots]), if_neg hlong,
        hn]
      exact h

-- ====================================================== the last step

/-- How the last step of a walk that follows ends at a spot. -/
inductive Follows (tree : FileTree) (onLink : OnLink) (here : Place)
    (part : String) (slashed : Bool) : Spot → Prop
  | dots (hdots : isDots part = true) :
      Follows tree onLink here part slashed
        (.found (afterDots here part) .directory)
  | directory (hdots : isDots part = false)
      (hlong : ¬maxName < part.utf8ByteSize)
      (hn : tree.node? (here ++ [part]) = some .directory) :
      Follows tree onLink here part slashed
        (.found (here ++ [part]) .directory)
  | file (hdots : isDots part = false)
      (hlong : ¬maxName < part.utf8ByteSize) (content : Bytes)
      (hn : tree.node? (here ++ [part]) = some (.file content))
      (hslashed : slashed = false) :
      Follows tree onLink here part slashed
        (.found (here ++ [part]) (.file content))
  | link (hdots : isDots part = false)
      (hlong : ¬maxName < part.utf8ByteSize) (target : String)
      (hn : tree.node? (here ++ [part]) = some (.link target))
      {spot : Spot}
      (h : onLink here target (if slashed then [""] else []) = .ok spot) :
      Follows tree onLink here part slashed spot

variable {slashed : Bool}

theorem follows_of_arrive
    (h : tree.arrive .follow onLink here part slashed = .ok spot) :
    tree.Follows onLink here part slashed spot := by
  unfold arrive at h
  dsimp only at h
  split at h
  · next hdots =>
    rw [← Except.ok.inj h]
    exact .dots hdots
  · next hdots =>
    split at h
    · next hslash => cases hslash.1
    · split at h
      · cases h
      · next hlong =>
        have hdots : isDots part = false := by simpa using hdots
        cases hn : tree.node? (here ++ [part]) with
        | none => rw [hn] at h; cases h
        | some node =>
            rw [hn] at h
            cases node with
            | directory =>
                rw [← Except.ok.inj h]
                exact .directory hdots hlong hn
            | file content =>
                dsimp only at h
                split at h
                · cases h
                · next hslashed =>
                  rw [← Except.ok.inj h]
                  exact .file hdots hlong content hn (by simpa using hslashed)
            | link target =>
                simp only [reduceCtorEq, false_and, if_false] at h
                exact .link hdots hlong target hn h

theorem arrive_of_follows
    (h : tree.Follows onLink here part slashed spot) :
    tree.arrive .follow onLink here part slashed = .ok spot := by
  unfold arrive
  cases h with
  | dots hdots => rw [if_pos hdots]
  | directory hdots hlong hn => simp [hdots, hlong, hn]
  | file hdots hlong content hn hslashed =>
      simp [hdots, hlong, hn, hslashed]
  | link hdots hlong target hn h => simp [hdots, hlong, hn, h]

-- ========================================================= from a path

/-- A link leaves parts to walk. -/
theorem splice_ne_nil (target : String) (rest : List String) :
    splice target rest ≠ [] := by
  unfold splice
  dsimp only
  split
  · exact Path.parts_ne_nil target
  · next h =>
    have hrest : rest ≠ [] := by simpa using h
    split <;> simp [hrest]

/-- A path that is walked at all is walked from its start, in any tree
and for any intent. -/
theorem walk_ok {path : String} (h : tree.walk intent path = .ok spot)
    (tree' : FileTree) (hdir : tree'.workdir = tree.workdir)
    (intent' : Intent) :
    tree.walkLinks intent maxLinks
        (if Path.isAbsolute path then [] else tree.workdir)
        (Path.parts path) = .ok spot
      ∧ tree'.walk intent' path
        = tree'.walkLinks intent' maxLinks
          (if Path.isAbsolute path then [] else tree.workdir)
          (Path.parts path) := by
  unfold walk at h ⊢
  split at h
  · cases h
  · next hnul =>
    rw [if_neg hnul]
    split at h
    · cases h
    · next hempty =>
      rw [if_neg hempty]
      split at h
      · cases h
      · next hlong =>
        rw [if_neg hlong, hdir]
        exact ⟨h, rfl⟩

end FileDepot.FileTree
