/-
The names in a path, and what is left of them in the parent.

`parts` is what a walk goes through: the names between the slashes, and
an empty part behind them when the path ends in a slash. So a path is
its names and perhaps that part (`parts_eq`), and slashes in a row or at
the end do not matter for the names (`names_append_slash`).

A parent is cut from the text of a path. Where no name is made of dots
only (`IsPlain`) nothing but slashes is cut off at the ends, and a
parent has all the names but the last (`parent?_plain`).
-/
import FileDepot.FileTree.Walk

namespace FileDepot.Path

-- ========================================================== splitting

theorem splitOn_append_mark (mark : Char) (part xs ys : List Char) :
    splitOn mark part (xs ++ mark :: ys)
      = splitOn mark part xs ++ splitOn mark [] ys := by
  induction xs generalizing part with
  | nil => simp [splitOn]
  | cons x xs ih =>
      rw [List.cons_append, splitOn, splitOn]
      split
      · rw [ih, List.cons_append]
      · exact ih _

theorem splitOn_of_not_mem {mark : Char} {xs : List Char} (h : mark ∉ xs)
    (part : List Char) : splitOn mark part xs = [part.reverse ++ xs] := by
  induction xs generalizing part with
  | nil => simp [splitOn]
  | cons x xs ih =>
      rw [List.mem_cons, not_or] at h
      rw [splitOn, if_neg (Ne.symm h.1), ih h.2]
      simp

/-- A text has a part in front of every mark and one behind the last. -/
theorem splitOn_ne_nil (mark : Char) (part cs : List Char) :
    splitOn mark part cs ≠ [] := by
  induction cs generalizing part with
  | nil => simp [splitOn]
  | cons c rest ih =>
      unfold splitOn
      split
      · simp
      · exact ih _

/-- Dropping empty parts leaves the last one. -/
theorem dropEmpty_ne_nil {parts : List (List Char)} (h : parts ≠ []) :
    dropEmpty parts ≠ [] := by
  induction parts with
  | nil => exact absurd rfl h
  | cons part rest ih =>
      cases rest with
      | nil => simp [dropEmpty]
      | cons next rest =>
          unfold dropEmpty
          split
          · exact ih (by simp)
          · simp

/-- Only an empty part at the end is kept. -/
theorem dropEmpty_eq (ps : List (List Char)) :
    dropEmpty ps
      = ps.filter (· ≠ []) ++ if ps.getLast? = some [] then [[]] else [] := by
  induction ps with
  | nil => rfl
  | cons p rest ih =>
      cases rest with
      | nil => by_cases hp : p = [] <;> simp [dropEmpty, hp]
      | cons q rest =>
          rw [dropEmpty.eq_3 p (q :: rest) (by simp), ih,
            List.getLast?_cons_cons]
          by_cases hp : p = [] <;> simp [hp]

-- ============================================================== names

/-- The names between the slashes of a text. -/
def nameChars (cs : List Char) : List (List Char) :=
  (splitOn '/' [] cs).filter (· ≠ [])

/-- The names in a path. -/
def names (path : String) : List String :=
  (nameChars path.toList).map String.ofList

/-- A path without single and double dots. -/
def IsPlain (path : String) : Prop :=
  ∀ part ∈ parts path, part ≠ "." ∧ part ≠ ".."

instance (path : String) : Decidable (IsPlain path) :=
  inferInstanceAs (Decidable (∀ part ∈ parts path, _))

@[simp]
theorem nameChars_append_slash (xs ys : List Char) :
    nameChars (xs ++ '/' :: ys) = nameChars xs ++ nameChars ys := by
  unfold nameChars
  rw [splitOn_append_mark, List.filter_append]

@[simp]
theorem nameChars_nil : nameChars [] = [] := rfl

theorem nameChars_of_not_mem {xs : List Char} (h : '/' ∉ xs)
    (hne : xs ≠ []) : nameChars xs = [xs] := by
  unfold nameChars
  rw [splitOn_of_not_mem h]
  simp [hne]

theorem nameChars_append_slashes (xs : List Char) (k : Nat) :
    nameChars (xs ++ List.replicate k '/') = nameChars xs := by
  induction k with
  | zero => simp
  | succ k ih =>
      rw [List.replicate_succ', ← List.append_assoc,
        nameChars_append_slash, ih, nameChars_nil, List.append_nil]

/-- A path has at least one part. -/
theorem parts_ne_nil (path : String) : parts path ≠ [] := by
  unfold parts
  intro h
  exact dropEmpty_ne_nil (splitOn_ne_nil '/' [] path.toList)
    (List.map_eq_nil_iff.mp h)

/-- A path is its names, and perhaps an empty part behind them. -/
theorem parts_eq (path : String) :
    ∃ tail, (tail = [] ∨ tail = [""]) ∧ parts path = names path ++ tail := by
  unfold parts names nameChars
  rw [dropEmpty_eq, List.map_append]
  split
  · exact ⟨[""], .inr rfl, rfl⟩
  · exact ⟨[], .inl rfl, rfl⟩

theorem ne_empty_of_mem_names {path name : String} (h : name ∈ names path) :
    name ≠ "" := by
  obtain ⟨cs, hcs, rfl⟩ := List.mem_map.mp h
  have hne : cs ≠ [] := by simpa using (List.mem_filter.mp hcs).2
  intro hempty
  rw [← String.toList_inj, String.toList_ofList] at hempty
  exact hne hempty

/-- The parts that are not empty are the names. -/
theorem filter_parts (path : String) :
    (parts path).filter (· ≠ "") = names path := by
  obtain ⟨tail, htail, hparts⟩ := parts_eq path
  have hnames : (names path).filter (· ≠ "") = names path :=
    List.filter_eq_self.mpr fun name hname => by
      simpa using ne_empty_of_mem_names hname
  rw [hparts, List.filter_append, hnames]
  rcases htail with rfl | rfl <;> simp

theorem isPlain_iff {path : String} :
    IsPlain path
      ↔ ∀ cs ∈ nameChars path.toList, cs ≠ ['.'] ∧ cs ≠ ['.', '.'] := by
  have hdots : ∀ cs : List Char, (String.ofList cs ≠ "."
      ∧ String.ofList cs ≠ "..") ↔ cs ≠ ['.'] ∧ cs ≠ ['.', '.'] := by
    intro cs
    rw [Ne, Ne, ← String.toList_inj, ← String.toList_inj,
      String.toList_ofList]
    rfl
  obtain ⟨tail, htail, hparts⟩ := parts_eq path
  unfold IsPlain
  rw [hparts]
  constructor
  · intro h cs hcs
    rw [← hdots]
    exact h _ (List.mem_append_left _ (List.mem_map_of_mem hcs))
  · intro h part hpart
    rcases List.mem_append.mp hpart with hname | hend
    · obtain ⟨cs, hcs, rfl⟩ := List.mem_map.mp hname
      exact (hdots cs).mpr (h cs hcs)
    · rcases htail with rfl | rfl
      · cases hend
      · rw [List.mem_singleton.mp hend]
        decide

/-- The names of a plain path name entries of directories. -/
theorem IsPlain.isDots {path : String} (h : IsPlain path) :
    ∀ name ∈ names path, FileTree.isDots name = false := by
  intro name hname
  obtain ⟨tail, -, hparts⟩ := parts_eq path
  have hdots := h name (hparts ▸ List.mem_append_left _ hname)
  simp [FileTree.isDots, ne_empty_of_mem_names hname, hdots]

-- ============================================================ parents

/-- In a text without dots for names only slashes are trimmed, and at
most the one at the front is left of them. -/
theorem trimEnd_plain {rs : List Char}
    (h : ∀ cs ∈ nameChars rs.reverse, cs ≠ ['.'] ∧ cs ≠ ['.', '.']) :
    (∃ k, rs = List.replicate k '/' ++ trimEnd rs)
      ∧ (trimEnd rs = [] → rs = [])
      ∧ ∀ rest, trimEnd rs = '/' :: rest → rest = [] := by
  fun_induction trimEnd rs with
  | case1 => exact ⟨⟨0, rfl⟩, by simp, by simp⟩
  | case2 rest hrest ih =>
      have hrev : nameChars ('/' :: rest).reverse
          = nameChars rest.reverse := by
        rw [List.reverse_cons, nameChars_append_slash, nameChars_nil,
          List.append_nil]
      obtain ⟨⟨k, hk⟩, hnil, hroot⟩ := ih (hrev ▸ h)
      refine ⟨⟨k + 1, ?_⟩, fun hn => absurd (hnil hn) hrest, hroot⟩
      rw [List.replicate_succ, List.cons_append, ← hk]
  | case3 => exact absurd rfl (h ['.'] (by decide)).1
  | case4 rest hrest ih =>
      have hdot : ['.'] ∈ nameChars ('.' :: '/' :: rest).reverse := by
        rw [show ('.' :: '/' :: rest).reverse
          = rest.reverse ++ '/' :: ['.'] by simp, nameChars_append_slash]
        exact List.mem_append_right _ (by decide)
      exact absurd rfl (h _ hdot).1
  | case5 cs hslash hdot =>
      refine ⟨⟨0, rfl⟩, id, ?_⟩
      rintro rest rfl
      exact absurd rfl (hslash rest)

/-- A reversed text that does not start with a slash starts with a name;
what follows is empty or starts with a slash. -/
private theorem split_name {cs : List Char} (hne : cs ≠ [])
    (hslash : ∀ rest, cs ≠ '/' :: rest) :
    ∃ name, cs = name ++ cs.dropWhile (· != '/') ∧ '/' ∉ name ∧ name ≠ []
      ∧ (cs.dropWhile (· != '/') = []
        ∨ ∃ rest, cs.dropWhile (· != '/') = '/' :: rest) := by
  induction cs with
  | nil => exact absurd rfl hne
  | cons c cs ih =>
      have hc : c ≠ '/' := fun h => hslash cs (by rw [h])
      rw [List.dropWhile_cons_of_pos (by simpa using hc)]
      by_cases hend : cs = []
      · exact ⟨[c], by simp [hend], by simpa using Ne.symm hc, by simp,
          by simp [hend]⟩
      · by_cases hnext : ∃ rest, cs = '/' :: rest
        · obtain ⟨rest, rfl⟩ := hnext
          exact ⟨[c], by simp, by simpa using Ne.symm hc, by simp,
            by simp⟩
        · obtain ⟨name, hsplit, hname, -, hfront⟩ :=
            ih hend fun rest h => hnext ⟨rest, h⟩
          refine ⟨c :: name, by rw [List.cons_append, ← hsplit], ?_,
            by simp, hfront⟩
          rw [List.mem_cons, not_or]
          exact ⟨Ne.symm hc, hname⟩

/-- A name behind a text is one more name, if the text is empty or ends
in a slash. -/
private theorem nameChars_split {name front : List Char}
    (hname : '/' ∉ name) (hne : name ≠ [])
    (hfront : front = [] ∨ ∃ rest, front = '/' :: rest) :
    nameChars (name ++ front).reverse
      = nameChars front.reverse ++ [name.reverse] := by
  have hlast : nameChars name.reverse = [name.reverse] :=
    nameChars_of_not_mem (by simpa using hname) (by simpa using hne)
  rcases hfront with rfl | ⟨rest, rfl⟩
  · rw [List.append_nil, hlast]
    rfl
  · rw [List.reverse_append, List.reverse_cons, List.append_assoc,
      List.singleton_append, nameChars_append_slash, hlast,
      nameChars_append_slash, nameChars_nil, List.append_nil]

/-- Trimming slashes leaves the names. -/
private theorem nameChars_trimEnd {rs : List Char} {k : Nat}
    (hk : rs = List.replicate k '/' ++ trimEnd rs) :
    nameChars (trimEnd rs).reverse = nameChars rs.reverse := by
  conv => rhs; rw [hk, List.reverse_append, List.reverse_replicate,
    nameChars_append_slashes]

/-- A text starts with a slash when what is left of it in front of its
last name does. -/
private theorem head?_split {name front slashes : List Char} {j : Nat}
    (hname : '/' ∉ name) (hne : name ≠ [])
    (hfront : front = [] ∨ ∃ rest, front = '/' :: rest)
    (hj : front = List.replicate j '/' ++ trimEnd front)
    (hnil : trimEnd front = [] → front = []) :
    ((trimEnd front).reverse.head? == some '/')
      = ((front.reverse ++ name.reverse ++ slashes).head? == some '/') := by
  rcases hfront with rfl | ⟨rest, rfl⟩
  · -- the text starts with the name
    cases hlast : name.reverse with
    | nil => exact absurd (List.reverse_eq_nil_iff.mp hlast) hne
    | cons c cs =>
        have hc : c ∈ name := by
          rw [← List.mem_reverse, hlast]
          exact List.mem_cons_self ..
        have hslash : c ≠ '/' := fun h => hname (h ▸ hc)
        simp [trimEnd, hslash]
  · -- trimming at the end does not come to the start
    have hleft : (trimEnd ('/' :: rest)).reverse ≠ [] := fun h =>
      absurd (hnil (List.reverse_eq_nil_iff.mp h)) (by simp)
    conv => rhs; rw [hj, List.reverse_append]
    obtain ⟨c, cs, hcons⟩ := List.exists_cons_of_ne_nil hleft
    rw [hcons]
    rfl

/-- The parent of a plain path has all its names but the last, and
starts where the path does. -/
theorem parent?_plain {path up : String} (h : IsPlain path)
    (hup : parent? path = some up) :
    (∃ name, names path = names up ++ [name]) ∧ IsPlain up
      ∧ isAbsolute up = isAbsolute path := by
  rw [isPlain_iff] at h ⊢
  have hrs : ∀ cs ∈ nameChars path.toList.reverse.reverse,
      cs ≠ ['.'] ∧ cs ≠ ['.', '.'] := by rwa [List.reverse_reverse]
  obtain ⟨⟨k, hk⟩, -, hroot⟩ := trimEnd_plain hrs
  have htrim := nameChars_trimEnd hk
  rw [List.reverse_reverse] at htrim
  unfold parent? at hup
  split at hup
  · cases hup
  · cases hup
  · next hne hslash =>
    obtain ⟨name, hsplit, hname, hnonempty, hfront⟩ := split_name hne
      fun rest hrest => hslash (by rw [hrest, hroot rest hrest])
    generalize List.dropWhile _ _ = front at hsplit hfront hup
    have hnames := nameChars_split hname hnonempty hfront
    rw [← hsplit, htrim] at hnames
    have hplain : ∀ cs ∈ nameChars front.reverse,
        cs ≠ ['.'] ∧ cs ≠ ['.', '.'] := fun cs hcs =>
      h cs (hnames ▸ List.mem_append_left _ hcs)
    obtain ⟨⟨j, hj⟩, hnil, -⟩ := trimEnd_plain hplain
    have hparent : nameChars up.toList = nameChars front.reverse := by
      rw [← Option.some.inj hup, String.toList_ofList,
        nameChars_trimEnd hj]
    refine ⟨⟨String.ofList name.reverse, ?_⟩, by rwa [hparent], ?_⟩
    · rw [names, hnames, names, hparent, List.map_append]
      rfl
    · have hpath : path.toList
          = (front.reverse ++ name.reverse) ++ List.replicate k '/' := by
        rw [← List.reverse_append, ← hsplit, ← List.reverse_replicate,
          ← List.reverse_append, ← hk, List.reverse_reverse]
      unfold isAbsolute
      rw [← Option.some.inj hup, String.toList_ofList, hpath]
      exact head?_split hname hnonempty hfront hj hnil

end FileDepot.Path
