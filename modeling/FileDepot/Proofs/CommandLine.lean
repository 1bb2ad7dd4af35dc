/-
Command lines as they are written out, and that reading one gives back
the command it was written for.

`Spells` has one rule for each place of the configuration file, before
the word of the command or among its options. In both the options come
in any order, each as one argument with its value attached, and the path
comes last, behind two dashes. A line with configuration files in both
places says which of them counts (`parse_between`).

# What a value cannot do

No value is ever read as anything else. The word of an option has no
equals sign, so the first one ends it and all behind it is the value
(`ofText_spelt`); and behind two dashes nothing is an option.

# Order

Values are taken in as they come (`readArguments_spelt`) and looked up
by their slots, each of which is given once. So of their order nothing is
left (`lookup_perm`), and what a line says can be read off one order of
the options (`Given.reads`).
-/
import FileDepot.CommandLine.Reading
import FileDepot.Proofs.Passing

namespace FileDepot.CommandLine

-- ============================================================ writing

/-- An option with its value, as one argument. -/
def spelt (o : Slot × String) : String :=
  "--" ++ o.1.long?.getD "" ++ "=" ++ o.2

namespace Command

/-- The path of a command. -/
def path? : Command → Option String
  | .store _ file => some file
  | .download _ target => some target
  | .describe _ | .clean _ _ | .initSchema => none

/-- A command that can be written out: its path is not empty, and its
days are a number of 32 bits. -/
def Sayable : Command → Prop
  | .store _ file => file ≠ ""
  | .download _ target => target ≠ ""
  | .clean _ days => days < 2 ^ 32
  | .describe _ | .initSchema => True

/-- The options that give a command what it needs beside its path. Thirty
days need not be given. -/
inductive Given : Command → List (Slot × String) → Prop
  | store (l : Location) (file : String) :
      Given (.store l file) [(.bucket, l.bucket), (.name, l.name)]
  | download (l : Location) (target : String) :
      Given (.download l target) [(.bucket, l.bucket), (.name, l.name)]
  | describe (l : Location) :
      Given (.describe l) [(.bucket, l.bucket), (.name, l.name)]
  | clean (bucket : String) (days : Nat) :
      Given (.clean bucket days)
        [(.bucket, bucket), (.days, toString days)]
  | cleanThirty (bucket : String) :
      Given (.clean bucket 30) [(.bucket, bucket)]
  | initSchema : Given .initSchema []

end Command

/-- The option for a configuration file, if there is one. -/
def configOption (config : Option String) : List (Slot × String) :=
  config.toList.map fun path => (.config, path)

/-- The path of a command as a value, if it has one. -/
def pathValue (c : Command) : List (Slot × String) :=
  c.path?.toList.map fun path => (.path, path)

/-- How a line ends: with the path behind two dashes. Without a path the
dashes change nothing. -/
inductive Closing : Option String → List String → Prop
  | path (path : String) : Closing (some path) ["--", path]
  | nothing : Closing none []
  | dashes : Closing none ["--"]

/-- The arguments ask for a command under a configuration file. -/
inductive Spells (c : Command) (config : Option String) :
    List String → Prop
  | ahead {given options : List (Slot × String)} {closing : List String}
      (hgiven : c.Given given) (horder : options.Perm given)
      (hclosing : Closing c.path? closing) :
      Spells c config ((configOption config).map spelt
        ++ c.name.word :: (options.map spelt ++ closing))
  | among {given options : List (Slot × String)} {closing : List String}
      (hgiven : c.Given given)
      (horder : options.Perm (given ++ configOption config))
      (hclosing : Closing c.path? closing) :
      Spells c config (c.name.word :: (options.map spelt ++ closing))

-- ======================================================== one argument

section

variable {slot : Slot} {word value : String}

/-- The word of an option has no equals sign. -/
theorem Slot.ne_of_mem_long (h : slot.long? = some word) :
    ∀ c ∈ word.toList, (c != '=') = true := by
  cases slot with
  | path => cases h
  | config => cases h; simp
  | bucket => cases h; simp
  | name => cases h; simp
  | days => cases h; simp

/-- An option with its value attached is read as that. -/
theorem ofText_spelt (h : slot.long? = some word) (value : String) :
    Argument.ofText (spelt (slot, value)) = .long word (some value) := by
  have htext : (spelt (slot, value)).toList
      = '-' :: '-' :: (word.toList ++ '=' :: value.toList) := by
    unfold spelt
    rw [h]
    simp
  have htake : (word.toList ++ '=' :: value.toList).takeWhile (· != '=')
      = word.toList := by
    rw [List.takeWhile_append_of_pos (Slot.ne_of_mem_long h),
      List.takeWhile_cons_of_neg (by decide), List.append_nil]
  have hdrop : (word.toList ++ '=' :: value.toList).dropWhile (· != '=')
      = '=' :: value.toList := by
    rw [List.dropWhile_append_of_pos (Slot.ne_of_mem_long h),
      List.dropWhile_cons_of_neg (by decide)]
  unfold Argument.ofText
  rw [htext]
  split
  case h_1 h =>
    -- the dashes do not stand alone, an equals sign at least follows
    simp at h
  case h_2 rest _ hrest =>
    cases hrest
    rw [htake, hdrop]
    dsimp only
    rw [String.ofList_toList, String.ofList_toList]
  case h_3 hnot hrest =>
    cases hrest
    exact (hnot rfl).elim
  case h_4 _ hnot => exact (hnot _ _ rfl).elim

/-- An option has a word of its own. -/
theorem Slot.long?_inj {other : Slot} (h : slot.long? = some word)
    (hother : other.long? = some word) : slot = other := by
  cases slot <;> cases h <;> cases other <;> simp_all [Slot.long?]

/-- A word is read as the slot it is for, where that can be given. -/
theorem longMeaning_of_mem {slots : List Slot} (hmem : slot ∈ slots)
    (h : slot.long? = some word) (atRoot : Bool) :
    longMeaning slots atRoot word = .slot slot := by
  unfold longMeaning
  cases hfind : slots.find? fun s => s.long? == some word with
  | none =>
      have hnone := List.find?_eq_none.mp hfind slot hmem
      simp [h] at hnone
  | some other =>
      have hother : other.long? = some word := by
        simpa using List.find?_some hfind
      rw [Slot.long?_inj h hother]

/-- Whatever can be given as an option has a word. -/
theorem long?_of_mem_options {command : CommandName}
    (h : slot ∈ command.options) : ∃ word, slot.long? = some word := by
  cases slot with
  | path => cases command <;> simp [CommandName.options] at h
  | config => exact ⟨_, rfl⟩
  | bucket => exact ⟨_, rfl⟩
  | name => exact ⟨_, rfl⟩
  | days => exact ⟨_, rfl⟩

end

-- ============================================================ intake

/-- A slot that was not given takes a value that passes its check. -/
theorem Intake.accept_fresh {i : Intake} {slot : Slot} {value : String}
    (hfresh : i.value? slot = none) (hcheck : slot.check value = .ok ()) :
    i.accept slot value
      = .ok { i with values := i.values ++ [(slot, value)] } := by
  unfold accept
  rw [hfresh, hcheck]
  rfl

/-- A slot that is not among those given has no value. -/
theorem lookup_eq_none {values : List (Slot × String)} {slot : Slot}
    (h : slot ∉ values.map Prod.fst) : values.lookup slot = none := by
  induction values with
  | nil => rfl
  | cons o rest ih =>
      obtain ⟨hne, hrest⟩ := not_or.mp (List.mem_cons.not.mp h)
      rw [List.lookup_cons, beq_eq_false_iff_ne.mpr hne]
      exact ih hrest

/-- The order of distinct slots does not matter to their values. -/
theorem lookup_perm {values others : List (Slot × String)}
    (h : values.Perm others) (hdistinct : (values.map Prod.fst).Nodup)
    (slot : Slot) : values.lookup slot = others.lookup slot := by
  induction h with
  | nil => rfl
  | cons o _ ih =>
      rw [List.lookup_cons, List.lookup_cons,
        ih (List.nodup_cons.mp hdistinct).2]
  | swap o p rest =>
      obtain ⟨a, v⟩ := o
      obtain ⟨b, w⟩ := p
      have hne : b ≠ a := by
        intro heq
        simp [heq] at hdistinct
      simp only [List.lookup_cons]
      by_cases ha : slot = a
      · rw [ha, beq_self_eq_true, beq_eq_false_iff_ne.mpr hne.symm]
      · rw [beq_eq_false_iff_ne.mpr ha]
  | trans hfirst _ ih ih' =>
      rw [ih hdistinct, ih' ((hfirst.map _).nodup_iff.mp hdistinct)]

/-- A configuration file from the environment has a name. -/
theorem Intake.checkDefault_config {env : Option String}
    (henv : env ≠ some "") (i : Intake) :
    i.checkDefault .config env = .ok () := by
  cases env with
  | none => rfl
  | some path =>
      have hpath : path ≠ "" := fun h => henv (by rw [h])
      unfold checkDefault Slot.check
      simp [hpath]

/-- Values that are found alike make the same command. -/
theorem Intake.command_congr {i j : Intake}
    (h : ∀ slot, i.value? slot = j.value? slot) (command : CommandName) :
    i.command command = j.command command := by
  unfold Intake.command
  simp only [h]

-- ============================================ behind the command's word

variable {c : Command} {command : CommandName} {config env : Option String}
  {values given options : List (Slot × String)} {closing : List String}

/-- A slot that was not given takes an option in at once. -/
theorem takeOption_fresh {at? : Option CommandName} {slot : Slot}
    {value : String} (hfresh : slot ∉ values.map Prod.fst)
    (hcheck : slot.check value = .ok ()) :
    takeOption at? (.slot slot) (some value) true ⟨values, none⟩
      = .ok ⟨values ++ [(slot, value)], none⟩ :=
  Intake.accept_fresh (i := ⟨values, none⟩) (lookup_eq_none hfresh) hcheck

/-- Options that a command has, each once and with a value that passes,
are taken in as they come. -/
theorem readArguments_spelt
    (hmem : ∀ o ∈ options, o.1 ∈ command.options)
    (hcheck : ∀ o ∈ options, o.1.check o.2 = .ok ())
    (hdistinct : ((values ++ options).map Prod.fst).Nodup)
    (closing : List String) :
    readArguments command false ⟨values, none⟩ (options.map spelt ++ closing)
      = readArguments command false ⟨values ++ options, none⟩ closing := by
  induction options generalizing values with
  | nil => rw [List.map_nil, List.nil_append, List.append_nil]
  | cons o rest ih =>
      obtain ⟨slot, value⟩ := o
      have hslot := hmem _ (List.mem_cons_self ..)
      obtain ⟨word, hword⟩ := long?_of_mem_options hslot
      have hfresh : slot ∉ values.map Prod.fst := by
        intro h
        rw [List.map_append] at hdistinct
        exact (List.disjoint_of_nodup_append hdistinct) h
          (List.mem_cons_self ..)
      rw [List.append_cons] at hdistinct
      rw [List.map_cons, List.cons_append, readArguments, ofText_spelt hword]
      dsimp only
      rw [longMeaning_of_mem hslot hword,
        takeOption_fresh hfresh (hcheck _ (List.mem_cons_self ..)), ok_bind,
        ih (fun o ho => hmem o (List.mem_cons_of_mem _ ho))
          (fun o ho => hcheck o (List.mem_cons_of_mem _ ho)) ?_,
        ← List.append_cons]
      exact hdistinct

/-- A command takes a path when it has one. -/
theorem takesPath_eq (c : Command) : c.name.takesPath = c.path?.isSome := by
  cases c <;> rfl

/-- The path of a command that can be written out is not empty. -/
theorem Command.Sayable.path_ne {path : String} (h : c.Sayable)
    (hpath : c.path? = some path) : path ≠ "" := by
  cases c with
  | store l file => cases hpath; exact h
  | download l target => cases hpath; exact h
  | describe l => cases hpath
  | clean bucket days => cases hpath
  | initSchema => cases hpath

/-- The path behind two dashes is taken in last. -/
theorem readArguments_closing (hclosing : Closing c.path? closing)
    (hsay : c.Sayable) (hfresh : Slot.path ∉ values.map Prod.fst) :
    readArguments c.name false ⟨values, none⟩ closing
      = .ok ⟨values ++ pathValue c, none⟩ := by
  have hdashes : Argument.ofText "--" = .dashes := rfl
  unfold pathValue
  generalize hpath : c.path? = path? at hclosing ⊢
  cases hclosing with
  | nothing =>
      rw [Option.toList_none, List.map_nil, List.append_nil]
      rfl
  | dashes =>
      rw [readArguments, hdashes]
      dsimp only
      rw [Option.toList_none, List.map_nil, List.append_nil]
      rfl
  | path path =>
      have hnone : (⟨values, none⟩ : Intake).value? .path = none :=
        lookup_eq_none hfresh
      have htakes : c.name.takesPath = true := by
        rw [takesPath_eq, hpath]
        rfl
      have hne : path ≠ "" := hsay.path_ne hpath
      have hcheck : Slot.path.check path = .ok () := by
        unfold Slot.check
        simp [hne]
      have htaken : takePath c.name path ⟨values, none⟩
          = .ok ⟨values, some (.path, some path)⟩ := by
        unfold takePath
        rw [htakes, hnone]
        rfl
      rw [readArguments, hdashes]
      dsimp only
      rw [readArguments, htaken, ok_bind, readArguments]
      exact Intake.accept_fresh hnone hcheck

-- ================================================= the command itself

/-- Days are read from how their number is written. -/
theorem days?_toString {days : Nat} (h : days < 2 ^ 32) :
    Slot.days? (toString days) = some days := by
  have hspelt : toString days
      = String.ofList (Text.spelling .none 0 days) := rfl
  have hread : Text.signed? (toString days) = some (days : Int) := by
    rw [hspelt]
    refine Text.signed?_spelling ?_ ?_ 0
    · show Text.minSigned ≤ (days : Int)
      unfold Text.minSigned Binary64.minInt
      omega
    · show (days : Int) ≤ Text.maxSigned
      unfold Text.maxSigned Binary64.maxInt
      omega
  unfold Slot.days? Slot.maxDays
  rw [hread]
  dsimp only
  rw [if_pos (by omega), Int.toNat_natCast]

/-- A configuration file that has a name passes its check. -/
theorem check_configOption (h : config ≠ some "") :
    ∀ o ∈ configOption config, o.1.check o.2 = .ok () := by
  intro o ho
  obtain ⟨path, hpath, rfl⟩ := List.mem_map.mp ho
  have hne : path ≠ "" := by
    rintro rfl
    exact h (Option.mem_toList.mp hpath)
  show Slot.config.check path = .ok ()
  unfold Slot.check
  simp [hne]

namespace Command.Given

/-- What is given are options of the command, each once, and none of them
is the configuration file or the path. -/
theorem slots (h : c.Given given) :
    (∀ slot ∈ given.map Prod.fst ++ [Slot.config], slot ∈ c.name.options)
      ∧ (given.map Prod.fst ++ [Slot.config] ++ [Slot.path]).Nodup := by
  have hlocation : ∀ command ∈ [CommandName.store, .download, .describe],
      (∀ slot ∈ [Slot.bucket, .name, .config], slot ∈ command.options)
        ∧ [Slot.bucket, .name, .config, .path].Nodup := by
    decide
  cases h with
  | store l file => exact hlocation .store (by decide)
  | download l target => exact hlocation .download (by decide)
  | describe l => exact hlocation .describe (by decide)
  | clean bucket days =>
      exact (by decide : (∀ slot ∈ [Slot.bucket, .days, .config],
          slot ∈ CommandName.clean.options)
        ∧ [Slot.bucket, .days, .config, .path].Nodup)
  | cleanThirty bucket =>
      exact (by decide : (∀ slot ∈ [Slot.bucket, .config],
          slot ∈ CommandName.clean.options)
        ∧ [Slot.bucket, .config, .path].Nodup)
  | initSchema =>
      exact (by decide : (∀ slot ∈ [Slot.config],
          slot ∈ CommandName.initSchema.options)
        ∧ [Slot.config, .path].Nodup)

/-- What is given passes its checks. -/
theorem check (h : c.Given given) (hsay : c.Sayable) :
    ∀ o ∈ given, o.1.check o.2 = .ok () := by
  have hlocation : ∀ l : Location,
      ∀ o ∈ [(Slot.bucket, l.bucket), (.name, l.name)],
        o.1.check o.2 = .ok () :=
    fun l => List.forall_mem_cons.mpr
      ⟨rfl, List.forall_mem_singleton.mpr rfl⟩
  cases h with
  | store l file => exact hlocation l
  | download l target => exact hlocation l
  | describe l => exact hlocation l
  | clean bucket days =>
      refine List.forall_mem_cons.mpr
        ⟨rfl, List.forall_mem_singleton.mpr ?_⟩
      show Slot.days.check (toString days) = .ok ()
      unfold Slot.check
      rw [days?_toString hsay]
      rfl
  | cleanThirty bucket => exact List.forall_mem_singleton.mpr rfl
  | initSchema => exact List.forall_mem_nil _

/-- What is given makes the command, with everything it needs. -/
theorem reads (h : c.Given given) (hsay : c.Sayable)
    (config : Option String) :
    let i : Intake := ⟨given ++ configOption config ++ pathValue c, none⟩
    i.command c.name = c
      ∧ (c.name.required.all fun slot => (i.value? slot).isSome) = true
      ∧ i.value? .config = config := by
  cases h with
  | store l file => cases config <;> exact ⟨rfl, rfl, rfl⟩
  | download l target => cases config <;> exact ⟨rfl, rfl, rfl⟩
  | describe l => cases config <;> exact ⟨rfl, rfl, rfl⟩
  | clean bucket days =>
      have hdays : ((Slot.days? (toString days)).getD defaultDays) = days := by
        rw [days?_toString hsay]
        rfl
      cases config <;>
        exact ⟨congrArg (Command.clean bucket) hdays, rfl, rfl⟩
  | cleanThirty bucket => cases config <;> exact ⟨rfl, rfl, rfl⟩
  | initSchema => cases config <;> exact ⟨rfl, rfl, rfl⟩

end Command.Given

/-- The keys of the option for a configuration file. -/
theorem configOption_sublist (config : Option String) :
    ((configOption config).map Prod.fst).Sublist [Slot.config] := by
  cases config with
  | none => exact List.nil_sublist _
  | some path => exact List.Sublist.refl _

theorem pathValue_sublist (c : Command) :
    ((pathValue c).map Prod.fst).Sublist [Slot.path] := by
  unfold pathValue
  cases c.path? with
  | none => exact List.nil_sublist _
  | some path => exact List.Sublist.refl _

/-- Behind its word a command is read from its options in any order and
its path. -/
theorem readCommand_spelt (hgiven : c.Given given) (hsay : c.Sayable)
    (hconfig : config ≠ some "") (henv : env ≠ some "")
    (horder : options.Perm (given ++ configOption config))
    (hclosing : Closing c.path? closing) :
    ∃ i, readCommand c.name env (options.map spelt ++ closing) = .ok i
      ∧ i.command c.name = c ∧ i.value? .config = config := by
  obtain ⟨hslots, hdistinct⟩ := hgiven.slots
  have hoptions : ∀ o ∈ options, o.1 ∈ c.name.options := by
    intro o ho
    refine hslots o.1 ?_
    rcases List.mem_append.mp (horder.subset ho) with ho | ho
    · exact List.mem_append_left _ (List.mem_map_of_mem ho)
    · refine List.mem_append_right _ ?_
      exact (configOption_sublist config).subset (List.mem_map_of_mem ho)
  have hchecks : ∀ o ∈ options, o.1.check o.2 = .ok () := by
    intro o ho
    rcases List.mem_append.mp (horder.subset ho) with ho | ho
    · exact hgiven.check hsay o ho
    · exact check_configOption hconfig o ho
  -- what is taken in, in the order of the line and in the usual one
  have htaken : (options ++ pathValue c).Perm
      (given ++ configOption config ++ pathValue c) :=
    horder.append_right _
  have hkeys : ((options ++ pathValue c).map Prod.fst).Nodup := by
    rw [(htaken.map Prod.fst).nodup_iff, List.map_append, List.map_append]
    refine hdistinct.sublist ?_
    exact ((List.Sublist.refl _).append (configOption_sublist config)).append
      (pathValue_sublist c)
  have hvalue : ∀ slot, (⟨options ++ pathValue c, none⟩ : Intake).value? slot
      = (⟨given ++ configOption config ++ pathValue c, none⟩
          : Intake).value? slot :=
    fun slot => lookup_perm htaken hkeys slot
  obtain ⟨hcommand, hrequired, hread⟩ := hgiven.reads hsay config
  have harguments : readArguments c.name false {}
        (options.map spelt ++ closing)
      = .ok ⟨options ++ pathValue c, none⟩ := by
    have hpath : Slot.path ∉ options.map Prod.fst := by
      intro h
      obtain ⟨o, ho, heq⟩ := List.mem_map.mp h
      obtain ⟨word, hword⟩ := long?_of_mem_options (hoptions o ho)
      rw [heq] at hword
      cases hword
    have hkeys' : (([] ++ options).map Prod.fst).Nodup := by
      rw [List.map_append] at hkeys
      exact hkeys.sublist (List.sublist_append_left ..)
    calc readArguments c.name false {} (options.map spelt ++ closing)
        = readArguments c.name false ⟨options, none⟩ closing :=
          readArguments_spelt hoptions hchecks hkeys' closing
      _ = .ok ⟨options ++ pathValue c, none⟩ :=
          readArguments_closing hclosing hsay hpath
  refine ⟨⟨options ++ pathValue c, none⟩, ?_, ?_, ?_⟩
  · unfold readCommand
    rw [harguments, ok_bind, Intake.checkDefault_config henv, ok_bind]
    simp only [hvalue]
    rw [if_pos hrequired]
  · rw [Intake.command_congr hvalue, hcommand]
  · rw [hvalue, hread]

-- ================================================= the whole line

/-- The root takes in an option for the configuration file. -/
theorem readRoot_configOption (hconfig : config ≠ some "")
    (rest : List String) :
    readRoot env false {} ((configOption config).map spelt ++ rest)
      = readRoot env false ⟨configOption config, none⟩ rest := by
  cases config with
  | none => rfl
  | some path =>
      have hcheck := check_configOption hconfig _ (List.mem_singleton_self _)
      show readRoot env false {} (spelt (.config, path) :: rest) = _
      rw [readRoot, ofText_spelt (rfl : Slot.config.long? = some "config")]
      dsimp only
      rw [longMeaning_of_mem (List.mem_singleton_self _) rfl,
        takeOption_fresh List.not_mem_nil hcheck, ok_bind]
      rfl

/-- At the word of a command the root is done, and the command is read
behind it. -/
theorem readRoot_word {inner : Intake} (henv : env ≠ some "")
    {rest : List String}
    (hread : readCommand command env rest = .ok inner) :
    readRoot env false ⟨values, none⟩ (command.word :: rest)
      = .ok ⟨⟨values, none⟩, some (command, inner)⟩ := by
  have hplain : Argument.ofText command.word = .plain command.word := by
    cases command <;> rfl
  have hword : CommandName.ofWord? command.word = some command := by
    cases command <;> rfl
  have hfinish : finishRoot env ⟨values, none⟩ (some (command, inner))
      = .ok ⟨⟨values, none⟩, some (command, inner)⟩ := by
    unfold finishRoot
    show (Intake.checkDefault ⟨values, none⟩ .config env >>= _) = _
    rw [Intake.checkDefault_config henv]
    rfl
  rw [readRoot, hplain]
  dsimp only
  rw [if_neg (by simp [Intake.isWaiting]), hword]
  dsimp only
  rw [hread, ok_bind, hfinish]

/-- A command line may name configuration files on both sides of the
command's word, and the one behind counts. -/
theorem parse_between {ahead behind : Option String}
    (hgiven : c.Given given) (hsay : c.Sayable) (hahead : ahead ≠ some "")
    (hbehind : behind ≠ some "") (henv : env ≠ some "")
    (horder : options.Perm (given ++ configOption behind))
    (hclosing : Closing c.path? closing) :
    parse env ((configOption ahead).map spelt
        ++ c.name.word :: (options.map spelt ++ closing))
      = .ok ⟨c, (behind.or ahead).or env⟩ := by
  obtain ⟨inner, hread, hcommand, hfound⟩ :=
    readCommand_spelt hgiven hsay hbehind henv horder hclosing
  have hroot : (⟨configOption ahead, none⟩ : Intake).value? .config
      = ahead := by
    cases ahead <;> rfl
  unfold parse
  rw [readRoot_configOption hahead, readRoot_word henv hread, ok_bind]
  dsimp only
  unfold configOf
  rw [hcommand, hfound, hroot]
  cases behind with
  | some path => rfl
  | none => cases ahead <;> rfl

/-- Reading a command line gives back what was written: the command with
exactly its texts, whatever these contain, the options in any order, and
the configuration file in either place, or else that of the
environment. -/
theorem parse_spelt (c : Command) (config env : Option String)
    (arguments : List String) (hsay : c.Sayable)
    (hconfig : config ≠ some "") (henv : env ≠ some "")
    (h : Spells c config arguments) :
    parse env arguments = .ok ⟨c, config.or env⟩ := by
  cases h with
  | ahead hgiven horder hclosing =>
      have hbehind := horder.trans (.of_eq (List.append_nil _).symm)
      have hnone : (none : Option String) ≠ some "" := nofun
      have hread := parse_between hgiven hsay hconfig hnone henv hbehind
        hclosing
      rwa [Option.none_or] at hread
  | among hgiven horder hclosing =>
      have hnone : (none : Option String) ≠ some "" := nofun
      have hread := parse_between hgiven hsay hnone hconfig henv horder
        hclosing
      rwa [Option.or_none] at hread

/-- Texts that look like options are only texts: a bucket with an equals
sign, no name, and a path and a configuration file with dashes in front.
Without days there are thirty. -/
theorem parse_spelt_dashes :
    parse (some "depot.toml")
        ["store", "--name=", "--config=--help", "--bucket=-b=c", "--", "-n"]
      = .ok ⟨.store ⟨"-b=c", ""⟩ "-n", some "--help"⟩
    ∧ parse (some "depot.toml") ["clean", "--bucket=--days=7"]
      = .ok ⟨.clean "--days=7" 30, some "depot.toml"⟩ := by
  constructor
  · refine parse_spelt (.store ⟨"-b=c", ""⟩ "-n") (some "--help") _ _
      (by decide : "-n" ≠ "") (by decide) (by decide) ?_
    have horder : [(Slot.name, ""), (.config, "--help"), (.bucket, "-b=c")].Perm
        ([(.bucket, "-b=c"), (.name, "")] ++ configOption (some "--help")) := by
      decide
    exact .among (.store ⟨"-b=c", ""⟩ "-n") horder (.path "-n")
  · refine parse_spelt (.clean "--days=7" 30) none _ _
      (by decide : 30 < 2 ^ 32) (by decide) (by decide) ?_
    exact .ahead (.cleanThirty "--days=7") (.refl _) .nothing

end FileDepot.CommandLine
