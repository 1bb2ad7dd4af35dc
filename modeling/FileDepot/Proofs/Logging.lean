/-
What file logging does to a run.

Setting up the log makes its directory and opens its file, before the
command is run. A directory that cannot be made is passed over. A file
in it that cannot be opened is not: the process stops, and the command
is not run at all (`LogBlocked`). This is the one way in which logging
decides what becomes of a command. In all others a run ends as it would
without a log (`logging_stands_aside`), if it does not come across what
belongs to the log (`LogPlace`).

When a log is blocked is followed up for a directory other than the
root (`logBlocked_iff`). It is where the path of the file is too long to
be walked or a directory stands in its place; a link there is followed,
and may lead nowhere.
-/
import FileDepot.Proofs.Elsewhere
import FileDepot.Program

namespace FileDepot

open CommandLine (Invocation)

variable {files : FileTree} {directory : String} {hidden : Place → Prop}

-- ============================================================= the log

/-- A place belongs to a log: setting the log up changes what stands
there, or its file stands there. -/
def LogPlace (files : FileTree) (directory : String) (place : Place) :
    Prop :=
  (openLog files (some directory)).2.node? place ≠ files.node? place
    ∨ (files.makeDirectories directory).1.targetPlace
        (Path.join directory logFile) = .ok place

instance (files : FileTree) (directory : String) :
    DecidablePred (LogPlace files directory) :=
  fun _ => inferInstanceAs (Decidable (_ ∨ _))

/-- A log is blocked: its directory is there or can be made, but its file
cannot be opened. -/
def LogBlocked (files : FileTree) (directory : String) : Prop :=
  ∃ made fault, files.makeDirectories directory = (made, none)
    ∧ made.walk .createFile (Path.join directory logFile) = .error fault

/-- Setting up a log that is blocked stops the process. -/
theorem openLog_of_blocked (h : LogBlocked files directory) :
    openLog files (some directory)
      = (.panicked, (files.makeDirectories directory).1) := by
  obtain ⟨made, fault, hmade, hwalk⟩ := h
  unfold openLog
  dsimp only
  rw [hmade]
  dsimp only
  rw [hwalk]

/-- Any other log is set up, or done without where its directory cannot
be made. -/
theorem openLog_of_not_blocked (h : ¬LogBlocked files directory) :
    (openLog files (some directory)).1
      = match (files.makeDirectories directory).2 with
        | none => .ready
        | some _ => .fallback := by
  unfold openLog
  dsimp only
  rcases hmade : files.makeDirectories directory with ⟨made, _ | fault⟩
  · dsimp only
    cases hwalk : made.walk .createFile (Path.join directory logFile) with
    | error fault => exact absurd ⟨made, fault, hmade, hwalk⟩ h
    | ok spot => cases spot <;> rfl
  · rfl

/-- Only a log that is blocked stops the process. -/
theorem panicked_iff :
    (openLog files (some directory)).1 = .panicked
      ↔ LogBlocked files directory := by
  by_cases h : LogBlocked files directory
  · rw [openLog_of_blocked h]
    exact ⟨fun _ => h, fun _ => rfl⟩
  · rw [openLog_of_not_blocked h]
    cases (files.makeDirectories directory).2 with
    | none => exact ⟨nofun, fun hblocked => absurd hblocked h⟩
    | some fault => exact ⟨nofun, fun hblocked => absurd hblocked h⟩

instance (files : FileTree) (directory : String) :
    Decidable (LogBlocked files directory) :=
  decidable_of_iff _ panicked_iff

/-- Setting up a log changes what belongs to it and nothing else. -/
theorem sameBut_openLog (files : FileTree) (directory : String) :
    FileTree.SameBut (LogPlace files directory) files
      (openLog files (some directory)).2 where
  workdir := by
    have hmade := (FileTree.grown_makeDirectories directory files).workdir
    unfold openLog
    dsimp only
    generalize files.makeDirectories directory = p at hmade ⊢
    obtain ⟨made, _ | fault⟩ := p
    · dsimp only
      split <;> exact hmade
    · exact hmade
  node := fun hplace => Decidable.not_not.mp fun hne => hplace (.inl hne)

-- ==================================================== blocked by what

/-- The names of a text with one more behind a slash. -/
theorem Path.parts_of_slash {xs ns : List Char} (hns : '/' ∉ ns)
    (hne : ns ≠ []) :
    dropEmpty (splitOn '/' [] (xs ++ '/' :: ns)) = nameChars xs ++ [ns] := by
  rw [splitOn_append_mark, splitOn_of_not_mem hns, dropEmpty_eq,
    List.filter_append, if_neg (by simpa using hne), List.append_nil]
  simp [nameChars, hne]

/-- A name joined to a path is one more of its names, and the path starts
as before. -/
theorem Path.parts_join {directory : String} (hd : directory ≠ "")
    (name : String) (hslash : '/' ∉ name.toList) (hne : name ≠ "") :
    parts (join directory name) = names directory ++ [name]
      ∧ isAbsolute (join directory name) = isAbsolute directory := by
  have hns : name.toList ≠ [] := by simpa using hne
  have habsolute : isAbsolute name = false := by
    unfold isAbsolute
    rw [beq_eq_false_iff_ne]
    exact fun hhead => hslash (List.mem_of_head? hhead)
  obtain ⟨xs, hjoin, hnames, hhead⟩ : ∃ xs,
      (join directory name).toList = xs ++ '/' :: name.toList
        ∧ nameChars directory.toList = nameChars xs
        ∧ (xs ++ '/' :: name.toList).head? = directory.toList.head? := by
    unfold join
    rw [habsolute, if_neg Bool.false_ne_true]
    split
    · next hlast =>
      obtain ⟨xs, hxs⟩ :=
        List.getLast?_eq_some_iff.mp (beq_iff_eq.mp hlast)
      refine ⟨xs, ?_, ?_, ?_⟩
      · rw [String.toList_append, hxs, List.append_assoc]
        rfl
      · rw [hxs, nameChars_append_slash, nameChars_nil, List.append_nil]
      · rw [hxs]
        cases xs <;> rfl
    · refine ⟨directory.toList, ?_, rfl, ?_⟩
      · rw [String.toList_append, String.toList_append, List.append_assoc]
        rfl
      · have hcs : directory.toList ≠ [] := by simpa using hd
        obtain ⟨c, cs, hcons⟩ := List.exists_cons_of_ne_nil hcs
        rw [hcons]
        rfl
  constructor
  · unfold parts Path.names
    rw [hjoin, parts_of_slash hslash hns, hnames, List.map_append]
    simp
  · unfold isAbsolute
    rw [hjoin, hhead]

/-- A name joined to a path that leads to a directory is walked to from
there, unless the path is too long. -/
theorem FileTree.walk_join {tree : FileTree} {there : Place}
    (h : tree.walk .follow directory = .ok (.found there .directory))
    (name : String) (hslash : '/' ∉ name.toList) (hne : name ≠ "")
    (hnul : name.toList.any (·.toNat == 0) = false) (intent : Intent) :
    if maxPath < (Path.join directory name).utf8ByteSize then
      tree.walk intent (Path.join directory name) = .error .nameTooLong
    else ∃ onEnd, tree.walk intent (Path.join directory name)
      = tree.arrive intent onEnd there name false := by
  obtain ⟨hlinks, -⟩ := walk_ok h tree rfl intent
  unfold walk at h
  split at h
  · cases h
  next hbytes =>
  split at h
  · cases h
  next hempty =>
  obtain ⟨hparts, habsolute⟩ :=
    Path.parts_join (by simpa using hempty) name hslash hne
  have hbytes' : ¬(Path.join directory name).toList.any (·.toNat == 0) := by
    unfold Path.join
    split
    · simp [hnul]
    · split <;> simp_all
  have hempty' : ¬(Path.join directory name).isEmpty := by
    intro hempty'
    rw [String.isEmpty_iff.mp hempty'] at hparts
    have hlast := congrArg List.getLast? hparts
    rw [List.getLast?_concat] at hlast
    exact hne (Option.some.inj hlast).symm
  obtain ⟨onEnd, hend⟩ := walkLinks_beyond intent [] hne hlinks
  rw [Path.filter_parts] at hend
  unfold walk
  rw [if_neg hbytes', if_neg hempty']
  split
  · rfl
  · rw [hparts, habsolute]
    exact ⟨onEnd, hend⟩

/-- Where the log directory is not the root and no link has the name of
the log file, a log is blocked exactly where the path of its file is too
long or a directory has that name. -/
theorem logBlocked_iff {made : FileTree}
    (hup : (Path.parent? directory).isSome = true)
    (hmade : files.makeDirectories directory = (made, none)) :
    ∃ there, made.walk .follow directory = .ok (.found there .directory)
      ∧ ((∀ target, made.node? (there ++ [logFile]) ≠ some (.link target)) →
        (LogBlocked files directory
          ↔ FileTree.maxPath < (Path.join directory logFile).utf8ByteSize
            ∨ made.node? (there ++ [logFile]) = some .directory)) := by
  obtain ⟨there, hthere⟩ := FileTree.leads_of_makeDirectories hup hmade
  refine ⟨there, hthere, fun hlink => ?_⟩
  have hblocked : LogBlocked files directory ↔ ∃ fault,
      made.walk .createFile (Path.join directory logFile)
        = .error fault := by
    unfold LogBlocked
    simp [hmade]
  have hwalk := FileTree.walk_join hthere logFile (by decide) (by decide)
    (by decide) .createFile
  rw [hblocked]
  split at hwalk
  · next hlong =>
    rw [hwalk]
    exact ⟨fun _ => .inl hlong, fun _ => ⟨_, rfl⟩⟩
  · next hlong =>
    obtain ⟨onEnd, hwalk⟩ := hwalk
    have hdots : FileTree.isDots logFile = false := by decide
    have hshort : ¬FileTree.maxName < logFile.utf8ByteSize := by decide
    rw [hwalk]
    unfold FileTree.arrive
    cases hn : made.node? (there ++ [logFile]) with
    | none => simp [hdots, hshort, hlong, hn]
    | some node =>
      cases node with
      | directory => simp [hdots, hshort, hlong, hn]
      | file content => simp [hdots, hshort, hlong, hn]
      | link target => exact absurd hn (hlink target)

-- ============================================================ the ends

/-- Two processes end alike but for files at hidden places. -/
structure Exit.SameBut (hidden : Place → Prop) (x x' : Exit) : Prop where
  code : x'.code = x.code
  output : x'.output = x.output
  report : x'.report = x.report
  site : x.site.SameBut hidden x'.site

/-- Processes end alike after runs that came to the same, whatever shows
of their events. -/
theorem Exit.sameBut_ofReport {r r' : Report} (h : r.SameBut hidden r')
    (filter filter' : LogFilter) (fallback fallback' : Bool) :
    (Exit.ofReport filter fallback r).SameBut hidden
      (Exit.ofReport filter' fallback' r') := by
  unfold Exit.ofReport
  dsimp only
  rw [h.result, h.output]
  cases r.result with
  | ok done => exact ⟨rfl, rfl, rfl, h.site⟩
  | error halt =>
    cases halt with
    | trouble t => exact ⟨rfl, rfl, rfl, h.site⟩
    | panicked text => exact ⟨rfl, rfl, rfl, h.site⟩

/-- What else is seen of a process after a run. -/
theorem Exit.shows_ofReport (filter : LogFilter) (fallback : Bool)
    (r : Report) :
    (Exit.ofReport filter fallback r).site = r.site
      ∧ (Exit.ofReport filter fallback r).log = r.events.filter filter.passes
      ∧ (Exit.ofReport filter fallback r).logFallback = fallback := by
  unfold Exit.ofReport
  dsimp only
  split <;> exact ⟨rfl, rfl, rfl⟩

namespace CommandLine.Invocation

variable {i : Invocation} {e : Environment} {site : Site}
  {config : Config.Entries}

/-- Without a log directory the command is run at once. -/
theorem execute_plain (h : i.configure e site.files = .ok (config, none)) :
    i.execute e site
      = Exit.ofReport (LogFilter.ofVariable (e.value? LogFilter.variableName))
        false (i.command.run config site) := by
  unfold execute
  rw [h]
  rfl

/-- Where the log is blocked no command is run. -/
theorem execute_blocked
    (h : i.configure e site.files = .ok (config, some directory))
    (hblocked : LogBlocked site.files directory) :
    i.execute e site
      = { code := panicCode
          site := { site with
            files := (site.files.makeDirectories directory).1 } } := by
  unfold execute
  rw [h]
  dsimp only
  rw [openLog_of_blocked hblocked]
  rfl

/-- Where it is not the command is run next. -/
theorem execute_logged
    (h : i.configure e site.files = .ok (config, some directory))
    (hblocked : ¬LogBlocked site.files directory) :
    i.execute e site
      = Exit.ofReport (LogFilter.ofVariable (e.value? LogFilter.variableName))
        (site.files.makeDirectories directory).2.isSome
        (i.command.run config
          { site with files := (openLog site.files (some directory)).2 }) := by
  have hsetup := openLog_of_not_blocked hblocked
  unfold execute
  rw [h]
  dsimp only
  rw [hsetup]
  cases (site.files.makeDirectories directory).2 <;> rfl

end CommandLine.Invocation

-- ======================================================== the two runs

/-- Logging to a file stands aside, unless its file is blocked. Take a
command under a configuration with a log directory, and the same command
without one, under settings that resolve to the same and on a site that
is the same but for files at hidden places. All that belongs to the log
is hidden, and no path that the command works on comes across anything
hidden. Then the process ends with the same exit code, printed text and
report, with the same databases, and with files that are the same but at
hidden places; its log shows the same events under the same filter, and
that it does without the log file is told exactly where the directory
cannot be made. Where the log is blocked the process stops instead:
nothing is printed, and nothing is done but making the directory. -/
theorem logging_stands_aside {i i' : Invocation} {e e' : Environment}
    {site site' : Site} {config config' : Config.Entries}
    (hlogged : i.configure e site.files = .ok (config, some directory))
    (hplain : i'.configure e' site'.files = .ok (config', none))
    (hcommand : i'.command = i.command)
    (hsettings : Settings.resolve config' = Settings.resolve config)
    (hsites : site'.SameBut hidden site)
    (hlog : ∀ place, LogPlace site.files directory place → hidden place)
    (hpaths : ∀ path ∈
        i.command.paths config (i'.execute e' site').site.files,
      (i'.execute e' site').site.files.Misses hidden path) :
    (LogBlocked site.files directory →
        i.execute e site
          = { code := panicCode
              site := { site with
                files := (site.files.makeDirectories directory).1 } })
      ∧ (¬LogBlocked site.files directory →
        (i'.execute e' site').SameBut hidden (i.execute e site)
          ∧ (e'.value? LogFilter.variableName
              = e.value? LogFilter.variableName →
            (i.execute e site).log = (i'.execute e' site').log)
          ∧ (i.execute e site).logFallback
            = (site.files.makeDirectories directory).2.isSome) := by
  refine ⟨Invocation.execute_blocked hlogged, fun hblocked => ?_⟩
  rw [Invocation.execute_plain hplain, hcommand,
    CommandLine.Command.run_of_resolve hsettings] at hpaths ⊢
  rw [(Exit.shows_ofReport _ _ _).1] at hpaths
  rw [Invocation.execute_logged hlogged hblocked]
  -- the command is run on a site where the log has been set up as well
  have hopened : FileTree.SameBut hidden site'.files
      (openLog site.files (some directory)).2 :=
    hsites.files.trans ((sameBut_openLog site.files directory).mono hlog)
  have hsite : site'.SameBut hidden
      { site with files := (openLog site.files (some directory)).2 } :=
    hsites.withFiles hopened
  have hrun := CommandLine.Command.run_sameBut hsite hpaths
  refine ⟨Exit.sameBut_ofReport hrun _ _ _ _, fun hfilter => ?_,
    (Exit.shows_ofReport _ _ _).2.2⟩
  rw [(Exit.shows_ofReport _ _ _).2.1, (Exit.shows_ofReport _ _ _).2.1,
    hrun.events, hfilter]

/-- An environment with a database and perhaps more. -/
def surroundings (more : List (String × String)) : Environment where
  bindings := ("BLOBVAULT__STORAGE__DFS__DB__URL", "files.db") :: more

/-- The variable of a log directory. -/
def logVariable : String × String := ("BLOBVAULT__LOGGING__DIR", "logs")

/-- The creation of the schema, configured by the environment alone. -/
def schemaCreation : Invocation := ⟨.initSchema, none⟩

/-- A configuration that loads, with what it resolves to. -/
theorem exists_configured (i : Invocation) (e : Environment) (site : Site)
    (resolved : Except ConfigFault (Option Settings))
    (directory? : Option String)
    (h : (i.configure e site.files).map (fun p =>
        (Settings.resolve p.1, p.2)) = .ok (resolved, directory?)) :
    ∃ config, i.configure e site.files = .ok (config, directory?)
      ∧ Settings.resolve config = resolved := by
  cases hc : i.configure e site.files with
  | error t =>
    rw [hc] at h
    cases h
  | ok p =>
    rw [hc] at h
    cases h
    exact ⟨p.1, rfl, rfl⟩

/-- A site without files. -/
def bare : Site := { files := {} }

/-- A log in a new directory makes no difference to the creation of the
schema. -/
theorem logging_stands_aside_schema :
    ¬LogBlocked bare.files "logs"
      ∧ (schemaCreation.execute (surroundings []) bare).SameBut
        (LogPlace bare.files "logs")
        (schemaCreation.execute (surroundings [logVariable]) bare) := by
  have hblocked : ¬LogBlocked bare.files "logs" := by decide +kernel
  obtain ⟨config, hlogged, hresolve⟩ :=
    exists_configured schemaCreation (surroundings [logVariable]) bare
      (Settings.resolve (Settings.timed 30000)) (some "logs")
      (by decide +kernel)
  obtain ⟨config', hplain, hresolve'⟩ :=
    exists_configured schemaCreation (surroundings []) bare
      (Settings.resolve (Settings.timed 30000)) none (by decide +kernel)
  have hsites : bare.SameBut (LogPlace bare.files "logs") bare :=
    ⟨⟨rfl, fun _ => rfl⟩, rfl⟩
  have haside := logging_stands_aside hlogged hplain rfl
    (hresolve'.trans hresolve.symm) hsites (fun _ h => h) (by
      rw [CommandLine.Command.paths_of_resolve hresolve]
      decide +kernel)
  exact ⟨hblocked, (haside.2 hblocked).1⟩

/-- A site in which a directory has the name of the log file. -/
def occupied : Site where
  files := { nodes := [(["logs"], .directory),
    (["logs", logFile], .directory)] }

/-- A log file that cannot be opened decides. Without it the schema would
be created, on a path that comes across nothing in the log directory;
with it the process stops, and no database is there. -/
theorem log_file_decides :
    ∃ config config',
      schemaCreation.configure (surroundings [logVariable]) occupied.files
          = .ok (config, some "logs")
        ∧ schemaCreation.configure (surroundings []) occupied.files
          = .ok (config', none)
        ∧ Settings.resolve config' = Settings.resolve config
        ∧ (∀ path ∈ schemaCreation.command.paths config
            (schemaCreation.execute (surroundings []) occupied).site.files,
          (schemaCreation.execute (surroundings [])
            occupied).site.files.Misses (["logs"] <+: ·) path)
        ∧ (schemaCreation.execute (surroundings []) occupied).code = 0
        ∧ (schemaCreation.execute (surroundings []) occupied).output
          = "table blobvault_files: created\n"
        ∧ (schemaCreation.execute (surroundings [logVariable])
          occupied).code = 101
        ∧ (schemaCreation.execute (surroundings [logVariable])
          occupied).output = ""
        ∧ (schemaCreation.execute (surroundings [logVariable])
          occupied).site.databases = [] := by
  obtain ⟨config, hlogged, hresolve⟩ :=
    exists_configured schemaCreation (surroundings [logVariable]) occupied
      (Settings.resolve (Settings.timed 30000)) (some "logs")
      (by decide +kernel)
  obtain ⟨config', hplain, hresolve'⟩ :=
    exists_configured schemaCreation (surroundings []) occupied
      (Settings.resolve (Settings.timed 30000)) none (by decide +kernel)
  refine ⟨config, config', hlogged, hplain, hresolve'.trans hresolve.symm,
    ?_, by decide +kernel, by decide +kernel, by decide +kernel,
    by decide +kernel, by decide +kernel⟩
  rw [CommandLine.Command.paths_of_resolve hresolve]
  decide +kernel

end FileDepot
