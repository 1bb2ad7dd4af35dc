/-
Which addresses of databases in memory are refused, and which are not.

A path names a database in memory (`NamesMemory`) by its own name, by
the decoded path of an address or by a decoded parameter of one. The
check of a url looks at the text before anything is decoded and at a
bare name only, so what it lets through names memory exactly where it
does so under a scheme or behind percent signs (`HidesMemory`).

What is opened is decided by the last value of a parameter (`last?`), and
one file system is memory altogether (`AsksMemory`). So opening agrees
with the first reading where an address asks for one mode and for no file
system (`Plain`), except that it takes an address without any path for a
database of its own as well (`Unnamed`).
-/
import Mathlib.Data.List.SplitBy
import FileDepot.Depot.Connect
import FileDepot.Proofs.Chain
import FileDepot.Proofs.Utf8

namespace FileDepot

namespace Address

-- ============================================================ reading

/-- What stands behind the scheme of an address. When a path is opened
`sqlite://` is taken for `file:`. -/
def behindScheme? (path : String) : Option (List Char) :=
  (after? "sqlite://" path.toList).or (after? "file:" path.toList)

/-- The path of an address, up to its parameters or its fragment. -/
def pathPart (cs : List Char) : List Char :=
  cs.takeWhile fun c => !(c == '?' || c == '#')

/-- The parameters of an address. -/
def query (cs : List Char) : List (List Char) :=
  parameters (cs.dropWhile fun c => !(c == '?' || c == '#'))

/-- A path names a database in memory. -/
def NamesMemory (path : String) : Prop :=
  path = ":memory:" ∨ ∃ cs, behindScheme? path = some cs
    ∧ (decoded (pathPart cs) = ":memory:"
      ∨ ∃ q ∈ query cs, parameter q = ("mode", "memory"))

/-- A path names a database in memory other than in plain words: as the
path of an address, or by a parameter written with percent signs. -/
def HidesMemory (path : String) : Prop :=
  ∃ cs, behindScheme? path = some cs
    ∧ (decoded (pathPart cs) = ":memory:"
      ∨ ∃ q ∈ query cs, '%' ∈ q ∧ parameter q = ("mode", "memory"))

/-- The last value of a parameter. -/
def last? (name : String) : List (String × String) → Option String
  | [] => none
  | p :: ps => (last? name ps).or (if p.1 = name then some p.2 else none)

/-- The value that an address asks for in a parameter. -/
def asked? (name : String) (cs : List Char) : Option String :=
  last? name ((query cs).map parameter)

/-- A path asks for a database in memory: as the path of an address, by
the mode or by the file system it asks for. -/
def AsksMemory (path : String) : Prop :=
  ∃ cs, behindScheme? path = some cs
    ∧ (decoded (pathPart cs) = ":memory:"
      ∨ asked? "mode" cs = some "memory"
      ∨ asked? "vfs" cs = some memorySystem)

/-- A path asks for one mode at most and for no file system. -/
def Plain (path : String) : Prop :=
  ∀ cs, behindScheme? path = some cs → ∀ p ∈ (query cs).map parameter,
    p.1 ≠ "vfs" ∧ (p.1 = "mode" → asked? "mode" cs = some p.2)

/-- A path leads to a database without a name. -/
def Unnamed (path : String) : Prop :=
  path = "" ∨ ∃ cs rest, behindScheme? path = some cs
    ∧ localPath cs = .ok rest ∧ decoded (pathPart rest) = ""

-- =========================================================== decoding

/-- A character that is no percent sign gives its own bytes. -/
theorem decodeGo_cons {c : Char} (hc : c ≠ '%') (cs : List Char) :
    decodeGo (c :: cs) = String.utf8EncodeChar c ++ decodeGo cs := by
  have hbytes : (String.ofList [c]).toUTF8.toList
      = String.utf8EncodeChar c := by
    rw [Text.toUTF8_ofList, List.flatMap_singleton]
  rw [← hbytes, decodeGo.eq_def]
  split
  · next heq => cases heq
  · next heq => exact absurd (List.cons.inj heq).1 hc
  · next heq =>
    cases heq
    rfl

theorem decoded_cons {c : Char} (hc : c ≠ '%') (cs : List Char) :
    (decoded (c :: cs)).toList = c :: (decoded cs).toList := by
  unfold decoded Text.ofBytes
  rw [decodeGo_cons hc, Text.decodeGo_utf8EncodeChar, Text.decodeGo_read,
    String.toList_ofList, String.toList_ofList]
  rfl

/-- Text without percent signs is decoded as it is. -/
theorem decodeGo_plain {cs : List Char} (h : '%' ∉ cs) :
    decodeGo cs = cs.flatMap String.utf8EncodeChar := by
  induction cs with
  | nil => rfl
  | cons c cs ih =>
      have hc : c ≠ '%' := fun hc => h (hc ▸ List.mem_cons_self)
      rw [decodeGo_cons hc, List.flatMap_cons,
        ih fun hmem => h (List.mem_cons_of_mem c hmem)]

theorem decoded_plain {cs : List Char} (h : '%' ∉ cs) :
    decoded cs = String.ofList cs := by
  unfold decoded
  rw [decodeGo_plain h, Text.ofBytes_utf8]

/-- A parameter written without percent signs is spelt as it reads. -/
theorem parameter_plain {q : List Char} (h : '%' ∉ q)
    (hq : parameter q = ("mode", "memory")) : q = "mode=memory".toList := by
  have hname : '%' ∉ q.takeWhile (· != '=') :=
    fun hmem => h ((List.takeWhile_prefix _).subset hmem)
  have hvalue : '%' ∉ (q.dropWhile (· != '=')).drop 1 :=
    fun hmem => h (((List.drop_suffix _ _).trans
      (List.dropWhile_suffix _)).subset hmem)
  unfold parameter at hq
  rw [decoded_plain hname, decoded_plain hvalue] at hq
  obtain ⟨htake, hdrop⟩ := Prod.mk.inj hq
  have htake' := congrArg String.toList htake
  have hdrop' := congrArg String.toList hdrop
  rw [String.toList_ofList] at htake' hdrop'
  -- behind the name stands an equals sign
  have hsign : q.dropWhile (· != '=') = '=' :: "memory".toList := by
    have hhead := List.head?_dropWhile_not (· != '=') q
    rcases hd : q.dropWhile (· != '=') with _ | ⟨c, tail⟩
    · rw [hd] at hdrop'
      cases hdrop'
    · rw [hd] at hhead hdrop'
      rw [show c = '=' by simpa using hhead]
      exact congrArg _ hdrop'
  rw [← List.takeWhile_append_dropWhile (p := (· != '=')) (l := q), htake',
    hsign]
  rfl

-- =============================================================== parts

/-- A text that holds another one has it inside. -/
theorem holds_iff (part cs : List Char) :
    holds part cs = true ↔ part <:+: cs := by
  induction cs with
  | nil =>
      rw [holds, List.isEmpty_iff, List.infix_nil]
  | cons c cs ih =>
      rw [holds, Bool.or_eq_true, ih, List.isPrefixOf_iff_prefix,
        List.infix_cons_iff]

/-- What stands behind a start is the end of the text. -/
theorem suffix_of_after {start : String} {cs rest : List Char}
    (h : after? start cs = some rest) : rest <:+ cs := by
  unfold after? at h
  obtain ⟨-, hrest⟩ := Option.ite_none_right_eq_some.mp h
  rw [← Option.some.inj hrest]
  exact List.drop_suffix _ _

/-- What stands behind the scheme is part of the text. -/
theorem infix_behindScheme {path : String} {cs : List Char}
    (h : behindScheme? path = some cs) : cs <:+: path.toList := by
  rcases Option.or_eq_some_iff.mp h with h | ⟨-, h⟩
  · exact (suffix_of_after h).isInfix
  · exact (suffix_of_after h).isInfix

/-- A parameter is part of the address. -/
theorem infix_of_mem_query {cs q : List Char} (h : q ∈ query cs) :
    q <:+: cs := by
  unfold query parameters at h
  dsimp only at h
  split at h
  · next tail hquery =>
    have hsplit := (List.mem_filter.mp h).1
    have htail : q <:+: tail := by
      rw [← List.flatten_splitBy (fun a b => a != '&' && b != '&') tail]
      exact List.infix_of_mem_flatten hsplit
    have hmark : tail <:+: '?' :: tail := (List.suffix_cons '?' tail).isInfix
    rw [← hquery] at hmark
    exact htail.trans (hmark.trans ((List.takeWhile_prefix _).isInfix.trans
      (List.dropWhile_suffix _).isInfix))
  · cases h

/-- A text that is no bare name of memory and holds no plain parameter
names memory only where it hides it. -/
theorem namesMemory_iff_hides {path : String} (hname : path ≠ ":memory:")
    (hplain : ¬"mode=memory".toList <:+: path.toList) :
    NamesMemory path ↔ HidesMemory path := by
  constructor
  · rintro (hpath | ⟨cs, hcs, hmemory | ⟨q, hq, hparameter⟩⟩)
    · exact absurd hpath hname
    · exact ⟨cs, hcs, .inl hmemory⟩
    · refine ⟨cs, hcs, .inr ⟨q, hq, ?_, hparameter⟩⟩
      by_cases hpercent : '%' ∈ q
      · exact hpercent
      · have hspelt := parameter_plain hpercent hparameter
        have hinfix := (infix_of_mem_query hq).trans (infix_behindScheme hcs)
        rw [hspelt] at hinfix
        exact absurd hinfix hplain
  · rintro ⟨cs, hcs, hmemory | ⟨q, hq, -, hparameter⟩⟩
    · exact .inr ⟨cs, hcs, .inl hmemory⟩
    · exact .inr ⟨cs, hcs, .inr ⟨q, hq, hparameter⟩⟩

/-- The check of a url, on what is left of the url without its
scheme. -/
theorem ofUrl_eq (url : String) : ∃ cs : List Char, ofUrl url
    = if cs = [] then .error .emptyUrl
      else if cs = ":memory:".toList ∨ holds "mode=memory".toList cs = true
      then .error .inMemory
      else .ok (String.ofList cs) := ⟨_, rfl⟩

/-- What is let through is no bare name of memory and holds no plain
parameter for it. -/
theorem ofUrl_ok {url path : String} (h : ofUrl url = .ok path) :
    path ≠ "" ∧ path ≠ ":memory:"
      ∧ ¬"mode=memory".toList <:+: path.toList := by
  obtain ⟨cs, hcs⟩ := ofUrl_eq url
  rw [hcs] at h
  by_cases hempty : cs = []
  · rw [if_pos hempty] at h
    cases h
  rw [if_neg hempty] at h
  split at h
  · cases h
  next hmemory =>
  rw [not_or, holds_iff] at hmemory
  have hlist : path.toList = cs := by
    rw [← Except.ok.inj h]
    exact String.toList_ofList
  rw [hlist]
  refine ⟨fun h => hempty ?_, fun h => hmemory.1 ?_, hmemory.2⟩
  · rw [← hlist, h]
    rfl
  · rw [← hlist, h]

-- ============================================================ opening

/-- The last value of a parameter is one of its values. -/
theorem mem_of_last {name value : String} {ps : List (String × String)}
    (h : last? name ps = some value) : (name, value) ∈ ps := by
  induction ps with
  | nil => cases h
  | cons p ps ih =>
      rcases Option.or_eq_some_iff.mp h with h | ⟨-, h⟩
      · exact List.mem_cons_of_mem p (ih h)
      · obtain ⟨hname, hvalue⟩ := Option.ite_none_right_eq_some.mp h
        rw [← hname, ← Option.some.inj hvalue]
        exact List.mem_cons_self

/-- The mode of memory has one name. -/
theorem ofMode_eq_memory {mode : String} :
    Access.ofMode? mode = some .memory ↔ mode = "memory" := by
  constructor
  · intro h
    unfold Access.ofMode? at h
    split at h
    any_goals cases h
    rfl
  · rintro rfl
    rfl

/-- A parameter changes what it names and nothing else. -/
theorem applyParameter_ok {r u : Request} {p : String × String}
    (h : applyParameter r p = .ok u) :
    u.system = (if p.1 = "vfs" then p.2 else r.system)
      ∧ some u.access
        = if p.1 = "mode" then Access.ofMode? p.2 else some r.access := by
  unfold applyParameter at h
  by_cases hvfs : p.1 = "vfs"
  · rw [if_pos hvfs] at h ⊢
    cases h
    rw [hvfs]
    exact ⟨rfl, rfl⟩
  by_cases hmode : p.1 = "mode"
  · rw [if_neg hvfs, if_pos hmode] at h
    rw [if_neg hvfs, if_pos hmode]
    split at h
    · next access haccess =>
      rw [haccess]
      split at h
      · cases h
        exact ⟨rfl, rfl⟩
      · cases h
    · cases h
  · rw [if_neg hvfs, if_neg hmode] at h
    rw [if_neg hvfs, if_neg hmode]
    have hu : r = u := by
      split at h
      · split at h
        · exact Except.ok.inj h
        · cases h
      · exact Except.ok.inj h
    rw [hu]
    exact ⟨rfl, rfl⟩

/-- All parameters together leave the last value of each. -/
theorem foldlM_applyParameter {ps : List (String × String)} {r u : Request}
    (h : ps.foldlM applyParameter r = .ok u) :
    u.system = (last? "vfs" ps).getD r.system
      ∧ some u.access
        = (last? "mode" ps).elim (some r.access) Access.ofMode? := by
  induction ps generalizing r with
  | nil =>
      cases h
      exact ⟨rfl, rfl⟩
  | cons p ps ih =>
      rw [List.foldlM_cons] at h
      obtain ⟨v, hv, hu⟩ := bind_ok h
      obtain ⟨hsystem, haccess⟩ := applyParameter_ok hv
      rw [(ih hu).1, (ih hu).2, hsystem, haccess, last?, last?]
      constructor
      · cases last? "vfs" ps with
        | some value => rfl
        | none => split <;> rfl
      · cases last? "mode" ps with
        | some value => rfl
        | none => split <;> rfl

/-- A request is for memory where its access or its file system is, or
the path is for a database of its own. -/
theorem Request.target_memory {r : Request} {path : String} {t : Target}
    (h : r.target path = .ok t) :
    t = .memory
      ↔ (r.access = .memory ∨ r.system = memorySystem)
        ∨ plainTarget path = .memory := by
  unfold Request.target at h
  split at h
  · cases h
  split at h
  · next hmemory =>
    cases h
    exact ⟨fun _ => .inl hmemory, fun _ => rfl⟩
  · next hmemory =>
    rw [or_iff_right hmemory]
    split at h
    · next hplain =>
      cases h
      exact ⟨fun _ => hplain, fun _ => rfl⟩
    · next hplain =>
      cases h
      exact ⟨nofun, fun hnone => by rw [hplain] at hnone; cases hnone⟩

theorem plainTarget_memory (path : String) :
    plainTarget path = .memory ↔ path = ":memory:" ∨ path = "" := by
  unfold plainTarget
  split
  · next h => exact ⟨fun _ => h, fun _ => rfl⟩
  · next h => exact ⟨nofun, fun h' => absurd h' h⟩

/-- A path that starts with a slash is not the name of memory. -/
theorem decoded_slash_ne (cs : List Char) :
    decoded (pathPart ('/' :: cs)) ≠ ":memory:" := by
  intro h
  have hlist := congrArg String.toList h
  unfold pathPart at hlist
  rw [List.takeWhile_cons_of_pos (by decide), decoded_cons (by decide)] at hlist
  cases (List.cons.inj hlist).1

/-- Taking the authority off an address changes neither its parameters
nor whether its path is the name of memory. -/
theorem localPath_ok {cs rest : List Char} (h : localPath cs = .ok rest) :
    query rest = query cs
      ∧ (decoded (pathPart rest) = ":memory:"
        ↔ decoded (pathPart cs) = ":memory:") := by
  unfold localPath at h
  split at h
  · next tail =>
    dsimp only at h
    split at h
    · next hauthority =>
      cases h
      have hskip : ∀ c ∈ tail.takeWhile (· != '/'),
          (!(c == '?' || c == '#')) = true := by
        rcases hauthority with hnone | hlocal
        · rw [hnone]
          exact nofun
        · rw [hlocal]
          exact List.all_eq_true.mp (by rfl)
      have hquery : tail.dropWhile (fun c => !(c == '?' || c == '#'))
          = (tail.dropWhile (· != '/')).dropWhile
              fun c => !(c == '?' || c == '#') := by
        conv =>
          lhs
          rw [← List.takeWhile_append_dropWhile (p := (· != '/')) (l := tail)]
        rw [List.dropWhile_append_of_pos hskip]
      -- what is left is empty or starts with a slash
      have hleft : decoded (pathPart (tail.dropWhile (· != '/')))
          ≠ ":memory:" := by
        have hhead := List.head?_dropWhile_not (· != '/') tail
        rcases hd : tail.dropWhile (· != '/') with _ | ⟨c, more⟩
        · decide
        · rw [hd] at hhead
          rw [show c = '/' by simpa using hhead]
          exact decoded_slash_ne more
      constructor
      · unfold query
        rw [List.dropWhile_cons_of_pos (by decide),
          List.dropWhile_cons_of_pos (by decide), hquery]
      · exact ⟨fun h => absurd h hleft,
          fun h => absurd h (decoded_slash_ne _)⟩
    · cases h
  · cases h
    exact ⟨rfl, Iff.rfl⟩

/-- What stands behind a scheme gives memory exactly where it asks for
memory or has no path. -/
theorem addressTarget_memory_iff {cs : List Char} {t : Target}
    (h : addressTarget cs = .ok t) :
    t = .memory
      ↔ (decoded (pathPart cs) = ":memory:"
          ∨ asked? "mode" cs = some "memory"
          ∨ asked? "vfs" cs = some memorySystem)
        ∨ ∃ rest, localPath cs = .ok rest ∧ decoded (pathPart rest) = "" := by
  unfold addressTarget at h
  obtain ⟨rest, hrest, h⟩ := bind_ok h
  obtain ⟨r, hr, h⟩ := bind_ok h
  obtain ⟨hquery, hpath⟩ := localPath_ok hrest
  obtain ⟨hsystem, haccess⟩ : r.system = (asked? "vfs" rest).getD "unix"
      ∧ some r.access
        = (asked? "mode" rest).elim (some .create) Access.ofMode? :=
    foldlM_applyParameter hr
  have hasked : ∀ name, asked? name rest = asked? name cs := by
    intro name
    unfold asked?
    rw [hquery]
  have hmode : r.access = .memory ↔ asked? "mode" cs = some "memory" := by
    rw [← Option.some_inj, haccess, hasked]
    cases asked? "mode" cs with
    | none => exact ⟨nofun, nofun⟩
    | some mode =>
        rw [Option.some_inj]
        exact ofMode_eq_memory
  have hvfs : r.system = memorySystem
      ↔ asked? "vfs" cs = some memorySystem := by
    rw [hsystem, hasked]
    cases asked? "vfs" cs with
    | none => exact ⟨fun h => absurd h (by decide), nofun⟩
    | some system => rw [Option.some_inj, Option.getD_some]
  change r.target (decoded (pathPart rest)) = .ok t at h
  rw [Request.target_memory h, plainTarget_memory, hmode, hvfs, hpath, hrest]
  simp only [Except.ok.injEq, exists_eq_left']
  rw [← or_assoc, or_comm (a := _ ∨ _) (b := _ = ":memory:")]

/-- A text behind a start is found there. -/
theorem after_append (start : String) (rest : List Char) :
    after? start (start.toList ++ rest) = some rest := by
  unfold after?
  rw [if_pos (by simp), ← String.length_toList, List.drop_left]

/-- A path is opened by what stands behind its scheme, or without a
scheme as a plain one. -/
theorem target_ok {path : String} {t : Target} (h : target path = .ok t) :
    (∃ cs, behindScheme? path = some cs ∧ addressTarget cs = .ok t)
      ∨ behindScheme? path = none ∧ t = plainTarget path := by
  unfold target at h
  unfold behindScheme?
  cases hsqlite : after? "sqlite://" path.toList with
  | some rest =>
      rw [hsqlite] at h
      dsimp only at h
      rw [after_append] at h
      split at h
      · cases h
      · exact .inl ⟨rest, rfl, h⟩
  | none =>
      rw [hsqlite] at h
      dsimp only at h
      split at h
      · cases h
      rw [Option.none_or]
      cases hfile : after? "file:" path.toList with
      | some rest =>
          rw [hfile] at h
          exact .inl ⟨rest, rfl, h⟩
      | none =>
          rw [hfile] at h
          cases h
          exact .inr ⟨rfl, rfl⟩

/-- Opening a path gives a database in memory exactly where the path
is the name of one, asks for one or has no name. -/
theorem target_memory_iff {path : String} {t : Target}
    (h : target path = .ok t) :
    t = .memory ↔ (path = ":memory:" ∨ AsksMemory path) ∨ Unnamed path := by
  unfold AsksMemory Unnamed
  rcases target_ok h with ⟨cs, hcs, ht⟩ | ⟨hcs, rfl⟩
  · -- a path with a scheme is neither the name of memory nor empty
    have hname : path ≠ ":memory:" := by
      rintro rfl
      cases hcs
    have hempty : path ≠ "" := by
      rintro rfl
      cases hcs
    rw [addressTarget_memory_iff ht, hcs]
    simp [hname, hempty]
  · rw [plainTarget_memory, hcs]
    simp

/-- A plain path asks for memory exactly where it names it under a
scheme. -/
theorem Plain.asks_iff {path : String} (h : Plain path)
    (hname : path ≠ ":memory:") : AsksMemory path ↔ NamesMemory path := by
  unfold NamesMemory
  rw [or_iff_right hname]
  refine exists_congr fun cs => and_congr_right fun hcs =>
    or_congr_right ⟨?_, ?_⟩
  · rintro (hmode | hvfs)
    · exact List.mem_map.mp (mem_of_last hmode)
    · exact absurd rfl (h cs hcs _ (mem_of_last hvfs)).1
  · rintro ⟨q, hq, hparameter⟩
    have hmode := (h cs hcs _ (List.mem_map_of_mem hq)).2
    rw [hparameter] at hmode
    exact .inl (hmode rfl)

end Address

-- ========================================================= connecting

section

variable {s : Settings} {site : Site} {m : Mounted}

/-- A file that is opened keeps its database in that file. -/
theorem Site.openFile_residence {path : String} {create : Bool}
    {r : Residence} {site' : Site}
    (h : site.openFile path create = .ok (r, site')) : r ≠ .memory := by
  unfold openFile at h
  split at h
  · cases h
  · split at h
    · cases h
      exact nofun
    · cases h
  · split at h
    · cases h
      exact nofun
    · split at h
      · cases h
        exact nofun
      · cases h

/-- A database lives in memory where its path opens one there. -/
theorem Site.openDatabase_residence {path : String} {r : Residence}
    {site' : Site} (h : site.openDatabase path = .ok (r, site')) :
    ∃ t, Address.target path = .ok t ∧ (r = .memory ↔ t = .memory) := by
  unfold openDatabase at h
  obtain ⟨t, ht, h⟩ := bind_ok h
  refine ⟨t, ht, ?_⟩
  cases t with
  | memory =>
      cases h
      exact ⟨fun _ => rfl, fun _ => rfl⟩
  | file path create =>
      exact ⟨fun hr => absurd hr (openFile_residence h), nofun⟩

namespace Depot

/-- Bringing an opened depot into use leaves it as it is. -/
theorem start_ok {m' : Mounted} (h : (start s m site).result = .ok m') :
    m' = m := by
  unfold start at h
  dsimp only at h
  split at h
  · split at h
    · cases h
      rfl
    · cases h
  · cases h
    rfl

/-- A depot that was connected lives where the path of its url opens a
database. -/
theorem connect_residence (h : (connect s site).result = .ok m) :
    ∃ path t, Address.ofUrl s.url = .ok path ∧ Address.target path = .ok t
      ∧ (m.residence = .memory ↔ t = .memory) := by
  unfold connect at h
  cases hplan : plan s with
  | error fault =>
      rw [hplan] at h
      cases h
  | ok p =>
      obtain ⟨depot, path⟩ := p
      have hpath : Address.ofUrl s.url = .ok path := by
        unfold plan at hplan
        obtain ⟨dialect, -, hplan⟩ := bind_ok hplan
        obtain ⟨table, -, hplan⟩ := bind_ok hplan
        obtain ⟨path', hpath', hplan⟩ := bind_ok hplan
        cases hplan
        exact hpath'
      rw [hplan] at h
      change (if _ then _ else _ : Attempt Mounted).result = _ at h
      split at h
      · cases h
      · split at h
        · cases h
        · next r site' hopen =>
          obtain ⟨t, ht, hmemory⟩ := Site.openDatabase_residence hopen
          rw [start_ok h]
          exact ⟨path, t, hpath, ht, hmemory⟩

end Depot

end

namespace Address

/-- What the check of a url is worth: a path that it lets through is not
the bare name of memory and holds no plain parameter for it, and still
names memory exactly where it hides it. A depot connected to it lives in
memory where the path asks for that or has no name; so a plain path that
has a name leads to memory exactly where it hides it. -/
theorem ofUrl_memory_iff {url path : String} (h : ofUrl url = .ok path) :
    (path ≠ ":memory:" ∧ ¬"mode=memory".toList <:+: path.toList)
      ∧ (NamesMemory path ↔ HidesMemory path)
      ∧ ∀ (s : Settings) (site : Site) (m : Mounted), s.url = url →
          (Depot.connect s site).result = .ok m →
          (m.residence = .memory ↔ AsksMemory path ∨ Unnamed path)
          ∧ (Plain path →
            (m.residence = .memory ↔ HidesMemory path ∨ Unnamed path)) := by
  obtain ⟨-, hname, hspelt⟩ := ofUrl_ok h
  have hides := namesMemory_iff_hides hname hspelt
  refine ⟨⟨hname, hspelt⟩, hides, ?_⟩
  rintro s site m rfl hconnect
  obtain ⟨path', t, hpath', ht, hmemory⟩ := Depot.connect_residence hconnect
  rw [h] at hpath'
  cases hpath'
  have hasks : m.residence = .memory ↔ AsksMemory path ∨ Unnamed path := by
    rw [hmemory, target_memory_iff ht, or_iff_right hname]
  refine ⟨hasks, fun hplain => ?_⟩
  rw [hasks, hplain.asks_iff hname, hides]

/-- A database in a file is not taken for one in memory. -/
theorem ofUrl_memory_iff_file : ¬NamesMemory "file:files.db?cache=shared" := by
  have h : ofUrl " sqlite:file:files.db?cache=shared "
      = .ok "file:files.db?cache=shared" := rfl
  obtain ⟨-, hides, -⟩ := ofUrl_memory_iff h
  rw [hides]
  rintro ⟨cs, hcs, hmemory | ⟨q, hq, hpercent, -⟩⟩
  · cases hcs
    rw [show pathPart _ = "files.db".toList from rfl,
      decoded_plain (by decide)] at hmemory
    exact absurd hmemory (by decide)
  · cases hcs
    have hquery : q ∈ ["cache=shared".toList] := hq
    rw [List.mem_singleton.mp hquery] at hpercent
    exact absurd hpercent (by decide)

/-- The name of memory is let through under a scheme, and every
connection to it opens a database of its own. -/
theorem ofUrl_hidden :
    ofUrl "file::memory:" = .ok "file::memory:"
      ∧ NamesMemory "file::memory:"
      ∧ target "file::memory:" = .ok .memory := by
  have hdecoded : decoded ":memory:".toList = ":memory:" :=
    decoded_plain (by decide)
  refine ⟨rfl, .inr ⟨":memory:".toList, rfl, .inl hdecoded⟩, ?_⟩
  show ({} : Request).target (decoded ":memory:".toList) = _
  rw [hdecoded]
  rfl

end Address

end FileDepot
