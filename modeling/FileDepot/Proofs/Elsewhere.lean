/-
Runs do not notice what lies elsewhere.

A run works on the path of its database and of what stands beside it, and
on the path that its command names (`Command.paths`). On two sites that differ in files only, and in those
only at places that none of these paths sees, it comes to the same: the
same result, printed text, events and databases, and files that differ
in no more than they did (`run_sameBut`). What a path sees is asked of
the tree that the run leaves; as a run keeps its tree (`kept_run`), it
has not seen more before.

Of the configuration a run takes only what it resolves to
(`run_of_resolve`).
-/
import FileDepot.Proofs.Activation
import FileDepot.Proofs.Unseen

namespace FileDepot

open FileTree (Kept Misses)

variable {α : Type} {hidden : Place → Prop} {site site' : Site}

-- =============================================================== sites

/-- Two sites are the same but for files at hidden places. -/
structure Site.SameBut (hidden : Place → Prop) (site site' : Site) :
    Prop where
  files : FileTree.SameBut hidden site.files site'.files
  rest : site' = { site with files := site'.files }

namespace Site.SameBut

theorem withFiles (h : site.SameBut hidden site') {files files' : FileTree}
    (hfiles : FileTree.SameBut hidden files files') :
    ({ site with files } : Site).SameBut hidden
      { site' with files := files' } :=
  ⟨hfiles, congrArg (fun s => { s with files := files' }) h.rest⟩

theorem keep (h : site.SameBut hidden site') (r : Residence)
    (db : Database) : (site.keep r db).SameBut hidden (site'.keep r db) := by
  rw [h.rest]
  exact ⟨h.files, rfl⟩

theorem scene (h : site.SameBut hidden site') (r : Residence) :
    (site.scene r).SameBut hidden (site'.scene r) := by
  rw [h.rest]
  exact ⟨h.files, rfl⟩

theorem absorb (h : site.SameBut hidden site') (r : Residence)
    {after after' : Scene} (hafter : after.SameBut hidden after') :
    (site.absorb r after).SameBut hidden (site'.absorb r after') := by
  rw [hafter.rest]
  exact (h.keep r after.database).withFiles hafter.files

/-- A file is opened at the same place. -/
theorem openFile (h : site.SameBut hidden site') {text : String}
    (hmiss : site.files.Misses hidden text) (create : Bool) :
    Ends Eq (fun p p' => p'.1 = p.1 ∧ p.2.SameBut hidden p'.2)
      (site.openFile text create) (site'.openFile text create) := by
  have hknown : ∀ r, site'.database? r = site.database? r := by
    rw [h.rest]
    exact fun _ => rfl
  unfold Site.openFile
  rw [h.files.walk hmiss]
  cases site.files.walk .createFile text with
  | error fault => exact .error rfl
  | ok spot =>
    cases spot with
    | free place =>
      dsimp only
      split
      · exact .ok ⟨rfl, (h.withFiles (h.files.set place _)).keep _ _⟩
      · exact .error rfl
    | found place node =>
      dsimp only
      rw [hknown]
      cases site.database? (.file place) with
      | some db => exact .ok ⟨rfl, h⟩
      | none =>
        dsimp only
        split
        · exact .ok ⟨rfl, h.keep _ _⟩
        · exact .error rfl

/-- A database is opened in the same residence. -/
theorem openDatabase (h : site.SameBut hidden site') {path : String}
    (hmiss : ∀ text create, Address.target path = .ok (.file text create) →
      site.files.Misses hidden text) :
    Ends Eq (fun p p' => p'.1 = p.1 ∧ p.2.SameBut hidden p'.2)
      (site.openDatabase path) (site'.openDatabase path) := by
  unfold Site.openDatabase
  cases htarget : Address.target path with
  | error outage => exact .error rfl
  | ok target =>
    cases target with
    | memory => exact .ok ⟨rfl, h.keep _ _⟩
    | file text create => exact h.openFile (hmiss text create htarget) create

end Site.SameBut

-- ============================================================ attempts

/-- Two attempts are the same but for files at hidden places. -/
structure Attempt.SameBut (hidden : Place → Prop) (a a' : Attempt α) :
    Prop where
  result : a'.result = a.result
  site : a.site.SameBut hidden a'.site
  events : a'.events = a.events

theorem Attempt.SameBut.failed (h : site.SameBut hidden site')
    (failure : Failure) (events : List Event) :
    (Attempt.failed (α := α) site failure events).SameBut hidden
      (.failed site' failure events) :=
  ⟨rfl, h, rfl⟩

theorem Attempt.SameBut.before {a a' : Attempt α} (h : a.SameBut hidden a')
    (events : List Event) :
    (a.before events).SameBut hidden (a'.before events) :=
  ⟨h.result, h.site, congrArg (events ++ ·) h.events⟩

theorem Attempt.SameBut.activated {a a' : Attempt Mounted}
    (h : a.SameBut hidden a') :
    (Backend.activated a).SameBut hidden (Backend.activated a') where
  result := congrArg (Except.map _) h.result
  site := h.site
  events := by
    unfold Backend.activated
    rw [h.result, h.events]

namespace Depot

/-- A depot is brought into use alike. -/
theorem start_sameBut (s : Settings) (m : Mounted)
    (h : site.SameBut hidden site') :
    (start s m site).SameBut hidden (start s m site') := by
  have hout := m.depot.blind_provision.sameBut (h.scene m.residence)
  unfold start Mounted.play
  split
  · dsimp only
    rw [hout.result, hout.events]
    split
    · exact ⟨rfl, h.absorb _ hout.scene, rfl⟩
    · exact ⟨rfl, h.absorb _ hout.scene, rfl⟩
  · exact ⟨rfl, h, rfl⟩

/-- A depot is connected alike, if the path of its database sees nothing
hidden. -/
theorem connect_sameBut {s : Settings} (h : site.SameBut hidden site')
    (hmiss : ∀ d path text create, plan s = .ok (d, path) →
      Address.target path = .ok (.file text create) →
        site.files.Misses hidden text) :
    (connect s site).SameBut hidden (connect s site') := by
  unfold connect
  cases hplan : plan s with
  | error fault => exact .failed h _ _
  | ok p =>
    obtain ⟨d, path⟩ := p
    dsimp only
    refine .before ?_ _
    split
    · exact ⟨rfl, h, rfl⟩
    · rcases (h.openDatabase fun text create =>
          hmiss d path text create hplan).cases with
        ⟨⟨r, opened⟩, ⟨r', opened'⟩, hopen, hopen', hr, hopened⟩
          | ⟨outage, _, hopen, hopen', rfl⟩
      · obtain rfl : r' = r := hr
        rw [hopen, hopen']
        exact start_sameBut s _ hopened
      · rw [hopen, hopen']
        exact .failed h _ _

end Depot

-- ================================================================ runs

/-- Two runs come to the same but for files at hidden places. -/
structure Report.SameBut (hidden : Place → Prop) (r r' : Report) :
    Prop where
  result : r'.result = r.result
  site : r.site.SameBut hidden r'.site
  output : r'.output = r.output
  events : r'.events = r.events

namespace CommandLine.Command

variable {config config' : Config.Entries}

/-- The database is opened at the path that its configuration leads
to. -/
theorem databasePath_of_plan {s : Settings} {d : Depot}
    {path text : String} {create : Bool}
    (hresolve : Settings.resolve config = .ok (some s))
    (hplan : Depot.plan s = .ok (d, path))
    (htarget : Address.target path = .ok (.file text create)) :
    databasePath? config = some text := by
  obtain ⟨dialect, -, hplan⟩ := bind_ok hplan
  obtain ⟨table, -, hplan⟩ := bind_ok hplan
  obtain ⟨path', hurl, hplan⟩ := bind_ok hplan
  cases hplan
  unfold databasePath?
  rw [hresolve]
  dsimp only
  rw [hurl]
  dsimp only
  rw [htarget]

/-- A path that a command names is among those of its runs. -/
theorem mem_paths_of_named {c : Command} {path : String}
    (h : path ∈ c.named) (config : Config.Entries) (files : FileTree) :
    path ∈ c.paths config files :=
  List.mem_append_right _ h

/-- So is the one of the database. -/
theorem mem_paths_of_database {path : String}
    (h : databasePath? config = some path) (c : Command)
    (files : FileTree) : path ∈ c.paths config files := by
  refine List.mem_append_left _ ?_
  rw [h]
  exact List.mem_cons_self

/-- Configurations that resolve to the same lead to the same paths. -/
theorem paths_of_resolve
    (h : Settings.resolve config' = Settings.resolve config) (c : Command)
    (files : FileTree) : c.paths config' files = c.paths config files := by
  unfold paths databasePath?
  rw [h]

/-- A command is carried out alike, if its paths see nothing hidden in
the end. -/
theorem dispatch_sameBut (m : Mounted) (h : site.SameBut hidden site')
    {c : Command}
    (hmiss : ∀ path ∈ c.named,
      (dispatch m site c).site.files.Misses hidden path) :
    (dispatch m site c).SameBut hidden (dispatch m site' c) := by
  rw [dispatch_eq] at hmiss
  have hserved := m.depot.operate_sameBut (h.scene m.residence) hmiss
  rw [dispatch_eq, dispatch_eq]
  exact ⟨congrArg Reply.result hserved.reply, h.absorb _ hserved.scene,
    congrArg Reply.output hserved.reply, hserved.events⟩

section

variable (h : site.SameBut hidden site')
  (hmiss : ∀ path, databasePath? config = some path →
    site.files.Misses hidden path)

include h hmiss

/-- A choice among the known backends comes to the same, if the path of
the database sees nothing hidden. -/
theorem choose_sameBut :
    (Backend.choose Backend.known config site).toAttempt.SameBut hidden
      (Backend.choose Backend.known config site').toAttempt := by
  cases hresolve : Settings.resolve config with
  | error fault =>
    rw [Backend.choose_of_error hresolve, Backend.choose_of_error hresolve]
    exact .failed h _ _
  | ok s? =>
    cases s? with
    | none =>
      rw [Backend.choose_of_none hresolve, Backend.choose_of_none hresolve]
      exact .failed h _ _
    | some s =>
      have hconnect := Depot.connect_sameBut h fun d path text create
          hplan htarget =>
        hmiss text (databasePath_of_plan hresolve hplan htarget)
      rw [Backend.choose_of_some hresolve, Backend.choose_of_some hresolve]
      exact hconnect.activated

/-- The schema is created alike, if the path of the database sees nothing
hidden. -/
theorem createSchema_sameBut :
    (createSchema config site).SameBut hidden
      (createSchema config site') := by
  unfold createSchema
  cases hresolve : Settings.resolve config with
  | error fault => exact ⟨rfl, h, rfl, rfl⟩
  | ok s? =>
    cases s? with
    | none => exact ⟨rfl, h, rfl, rfl⟩
    | some s =>
      have hconnect := Depot.connect_sameBut
        (s := { s with autoCreate := false }) h
        fun d path text create hplan htarget =>
          hmiss text (databasePath_of_plan hresolve hplan htarget)
      dsimp only
      generalize Depot.connect _ site = a at hconnect ⊢
      generalize Depot.connect _ site' = a' at hconnect ⊢
      rw [hconnect.result, hconnect.events]
      cases a.result with
      | error stop => exact ⟨rfl, hconnect.site, rfl, rfl⟩
      | ok m =>
        have hdispatch := dispatch_sameBut (c := .initSchema) m hconnect.site
          (fun path hpath => nomatch hpath)
        exact ⟨hdispatch.result, hdispatch.site, hdispatch.output,
          congrArg (a.events ++ ·) hdispatch.events⟩

/-- Any other command runs alike, if the paths of the command see nothing
hidden in the end either. -/
theorem runOnBackend_sameBut {c : Command}
    (hpaths : ∀ path ∈ c.named,
      (runOnBackend c config site).site.files.Misses hidden path) :
    (runOnBackend c config site).SameBut hidden
      (runOnBackend c config site') := by
  have hchoose := choose_sameBut h hmiss
  unfold runOnBackend at hpaths ⊢
  generalize Backend.choose Backend.known config site = a at hchoose hpaths ⊢
  generalize Backend.choose Backend.known config site' = a' at hchoose ⊢
  dsimp only at hpaths ⊢
  rw [hchoose.result, hchoose.events]
  cases hresult : a.result with
  | error stop => exact ⟨rfl, hchoose.site, rfl, rfl⟩
  | ok active =>
    rw [hresult] at hpaths
    have hdispatch := dispatch_sameBut active.backend hchoose.site hpaths
    refine ⟨hdispatch.result, hdispatch.site, hdispatch.output, ?_⟩
    dsimp only
    rw [hdispatch.events]

end

end CommandLine.Command

-- ============================================================== kept

/-- Opening a database keeps the tree. -/
theorem Site.kept_openFile {text : String} {create : Bool} {r : Residence}
    {opened : Site} (h : site.openFile text create = .ok (r, opened)) :
    Kept site.files opened.files := by
  unfold Site.openFile at h
  cases hwalk : site.files.walk .createFile text with
  | error fault => rw [hwalk] at h; cases h
  | ok spot =>
    rw [hwalk] at h
    cases spot with
    | free place =>
      obtain ⟨here, name, -, hend⟩ := FileTree.ends_of_walk (.file []) hwalk
      dsimp only at h
      split at h
      · cases h
        exact .set hend.accepts []
      · cases h
    | found place node =>
      dsimp only at h
      split at h
      · cases h
        exact .refl _
      · split at h
        · cases h
          exact .refl _
        · cases h

theorem Site.kept_openDatabase {path : String} {r : Residence}
    {opened : Site} (h : site.openDatabase path = .ok (r, opened)) :
    Kept site.files opened.files := by
  unfold Site.openDatabase at h
  obtain ⟨target, -, h⟩ := bind_ok h
  cases target with
  | memory =>
    cases h
    exact .refl _
  | file text create => exact kept_openFile h

/-- So does connecting a depot. -/
theorem Depot.kept_connect (s : Settings) (site : Site) :
    Kept site.files (connect s site).site.files := by
  have hstart : ∀ m opened,
      Kept opened.files (start s m opened).site.files := by
    intro m opened
    have hpasses := m.depot.passes_provision (opened.scene m.residence)
    unfold start Mounted.play
    split
    · dsimp only
      split <;> exact hpasses.kept
    · exact .refl _
  unfold connect
  split
  · exact .refl _
  · show Kept _ (ite _ _ _ : Attempt Mounted).site.files
    split
    · exact .refl _
    · split
      · exact .refl _
      · next hopen => exact (Site.kept_openDatabase hopen).trans (hstart _ _)

namespace CommandLine.Command

variable {config config' : Config.Entries}

theorem kept_dispatch (m : Mounted) (site : Site) (c : Command) :
    Kept site.files (dispatch m site c).site.files := by
  rw [dispatch_eq]
  exact (m.depot.passes_operate (site.scene m.residence) c).kept

theorem kept_choose (config : Config.Entries) (site : Site) :
    Kept site.files (Backend.choose Backend.known config site).site.files := by
  cases hresolve : Settings.resolve config with
  | error fault =>
    rw [Backend.choose_of_error hresolve]
    exact .refl _
  | ok s? =>
    cases s? with
    | none =>
      rw [Backend.choose_of_none hresolve]
      exact .refl _
    | some s =>
      have hconnect := Depot.kept_connect s site
      rw [Backend.choose_of_some hresolve]
      generalize Depot.connect s site = a at hconnect ⊢
      exact hconnect

theorem kept_createSchema (config : Config.Entries) (site : Site) :
    Kept site.files (createSchema config site).site.files := by
  unfold createSchema
  split
  · exact .refl _
  · exact .refl _
  · next settings _ =>
    have hconnect :=
      Depot.kept_connect { settings with autoCreate := false } site
    generalize Depot.connect _ site = a at hconnect ⊢
    dsimp only
    split
    · exact hconnect
    · exact hconnect.trans (kept_dispatch _ _ _)

theorem kept_runOnBackend (c : Command) (config : Config.Entries)
    (site : Site) :
    Kept site.files (runOnBackend c config site).site.files := by
  have hchoose := kept_choose config site
  unfold runOnBackend
  generalize Backend.choose Backend.known config site = choice at hchoose ⊢
  dsimp only
  split
  · exact hchoose
  · exact hchoose.trans (kept_dispatch _ _ _)

/-- Every run keeps the tree. -/
theorem kept_run (c : Command) (config : Config.Entries) (site : Site) :
    Kept site.files (c.run config site).site.files := by
  by_cases hc : c = .initSchema
  · subst hc
    exact kept_createSchema config site
  · rw [run_of_ne hc]
    exact kept_runOnBackend c config site

-- ============================================================= results

theorem run_initSchema (config : Config.Entries) (site : Site) :
    run .initSchema config site = createSchema config site :=
  rfl

/-- A run comes to the same on two sites that differ in files only where
its paths see nothing in the end. -/
theorem run_sameBut (h : site.SameBut hidden site') {c : Command}
    (hmiss : ∀ path ∈ c.paths config (c.run config site).site.files,
      (c.run config site).site.files.Misses hidden path) :
    (c.run config site).SameBut hidden (c.run config site') := by
  have hdatabase : ∀ path, databasePath? config = some path →
      site.files.Misses hidden path := fun path hpath =>
    (hmiss path (mem_paths_of_database hpath c _)).of_kept
      (kept_run c config site)
  have hnamed : ∀ path ∈ c.named,
      (c.run config site).site.files.Misses hidden path :=
    fun path hpath => hmiss path (mem_paths_of_named hpath config _)
  by_cases hc : c = .initSchema
  · subst hc
    rw [run_initSchema, run_initSchema]
    exact createSchema_sameBut h hdatabase
  · rw [run_of_ne hc] at hnamed
    rw [run_of_ne hc, run_of_ne hc]
    exact runOnBackend_sameBut h hdatabase hnamed

/-- Configurations that resolve to the same run a command alike. -/
theorem run_of_resolve
    (h : Settings.resolve config' = Settings.resolve config) (c : Command)
    (site : Site) : c.run config' site = c.run config site := by
  by_cases hc : c = .initSchema
  · subst hc
    rw [run_initSchema, run_initSchema]
    unfold createSchema
    rw [h]
  · have hchoose : (Backend.choose Backend.known config' site).toAttempt
        = (Backend.choose Backend.known config site).toAttempt := by
      cases hresolve : Settings.resolve config with
      | error fault =>
        rw [Backend.choose_of_error hresolve,
          Backend.choose_of_error (h.trans hresolve)]
      | ok s? =>
        cases s? with
        | none =>
          rw [Backend.choose_of_none hresolve,
            Backend.choose_of_none (h.trans hresolve)]
        | some s =>
          rw [Backend.choose_of_some hresolve,
            Backend.choose_of_some (h.trans hresolve)]
    rw [run_of_ne hc, run_of_ne hc]
    unfold runOnBackend
    dsimp only
    rw [hchoose]

end CommandLine.Command

end FileDepot
