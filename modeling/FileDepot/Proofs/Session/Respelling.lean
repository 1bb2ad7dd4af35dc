/-
Tables do not interfere, and the spelling of a table name does not
matter.

`Depot.Respells` relates two depots on one table under two spellings.
Asked for the same in scenes that resemble each other, they come to
outcomes that resemble each other (`Outcome.Resembles`); this is proved
once per operation from the statements, then for a step, then for a
trace. The events carry the names as they are spelt, so they are only
compared where the spelling is the same.

# Two readings

With only the table of the step looked at, the two databases may hold
anything in all other tables: that a result does not depend on them is
`Step.answer_of_alike`. With every table looked at, two sessions on one
database may spell every name differently: `trace_respelt`.
-/
import Mathlib.Data.List.Forall2
import FileDepot.Proofs.Provisioning
import FileDepot.Proofs.Resemblance

namespace FileDepot

variable {looked : String → Prop} {n n' : String} {scene scene' : Scene}
  {d d' : Depot} {α β : Type}

-- ============================================================ outcomes

/-- Failures of operations that differ in the spelling of a name. They
are of one kind, and the same where the spelling is. -/
def Failure.Respelt (n n' : String) (f f' : Failure) : Prop :=
  f.kind = f'.kind ∧ (n = n' → f = f')

theorem Failure.Respelt.refl (n n' : String) (f : Failure) :
    f.Respelt n n' f :=
  ⟨rfl, fun _ => rfl⟩

/-- Two scenes on databases that resemble each other. -/
structure Scene.Resembles (looked : String → Prop) (scene scene' : Scene) :
    Prop where
  files : scene'.files = scene.files
  now : scene'.now = scene.now
  host : scene'.host = scene.host
  outage : scene'.outage = scene.outage
  secondOutage : scene'.secondOutage = scene.secondOutage
  database : scene.database.Resembles looked scene'.database

/-- Two depots that are the same but for the spelling of their table. -/
structure Depot.Respells (d d' : Depot) : Prop where
  dialect : d'.dialect = d.dialect
  options : d'.options = d.options
  table : sameName d.table.text d'.table.text = true

/-- Two outcomes under two spellings: the same value or failures of one
kind, and scenes that resemble each other. -/
structure Outcome.Resembles (looked : String → Prop) (n n' : String)
    (out out' : Outcome α) : Prop where
  result : Ends (Failure.Respelt n n') Eq out.result out'.result
  scene : out.scene.Resembles looked out'.scene
  events : n = n' → out.events = out'.events

namespace Scene.Resembles

/-- A database that is put in the place of one leaves the rest. -/
theorem setDatabase (h : scene.Resembles looked scene') {db db' : Database}
    (hdb : db.Resembles looked db') :
    Scene.Resembles looked { scene with database := db }
      { scene' with database := db' } :=
  ⟨h.files, h.now, h.host, h.outage, h.secondOutage, hdb⟩

theorem setFiles (h : scene.Resembles looked scene') (files : FileTree) :
    Scene.Resembles looked { scene with files := files }
      { scene' with files := files } :=
  ⟨rfl, h.now, h.host, h.outage, h.secondOutage, h.database⟩

theorem later (h : scene.Resembles looked scene') :
    scene.later.Resembles looked scene'.later :=
  ⟨h.files, h.now, h.host, by
    unfold Scene.later
    rw [h.outage, h.secondOutage], h.secondOutage, h.database⟩

/-- Statements that end alike do so over a connection. -/
theorem query {R : α → β → Prop} (h : scene.Resembles looked scene')
    (use : Database → Except DatabaseFault α)
    (use' : Database → Except DatabaseFault β)
    (hu : Ends (DatabaseFault.Respelt n n') R (use scene.database)
      (use' scene'.database)) :
    Ends (Failure.Respelt n n') R (scene.query use) (scene'.query use') := by
  unfold Scene.query Scene.reach
  rw [h.outage]
  cases scene.outage with
  | some outage => exact .error (.refl ..)
  | none =>
      dsimp only
      rcases hu.cases with ⟨a, b, ha, hb, hR⟩ | ⟨e, e', he, he', hE⟩
      · rw [ha, hb]
        exact .ok hR
      · rw [he, he']
        exact .error ⟨rfl, fun heq => by rw [hE.2 heq]⟩

end Scene.Resembles

-- ========================================================== operations

namespace Depot.Respells

/-- The payload of a file does not depend on the database. -/
theorem draft (hd : d.Respells d') (hs : scene.Resembles looked scene')
    (l : Location) (file : String) :
    d'.draft scene' l file = d.draft scene l file := by
  unfold Depot.draft
  rw [hd.options, hs.files, hs.now, hs.host]

/-- A deletion in a statement of its own. -/
theorem clear (hd : d.Respells d') (hs : scene.Resembles looked scene')
    (hl : looked d.table.text) (l : Location) :
    (d.clear l scene).1.Resembles looked (d'.clear l scene').1
      ∧ (d.table.text = d'.table.text →
        (d.clear l scene).2 = (d'.clear l scene').2) := by
  have hdelete := hs.query
    (fun db => db.deleteAt d.table.text l)
    (fun db => db.deleteAt d'.table.text l)
    (hs.database.deleteWhere hd.table hl _)
  unfold Depot.clear
  rcases hdelete.cases with ⟨⟨count, db⟩, ⟨_, db'⟩, hp, hp', rfl, hdb⟩ |
    ⟨f, f', hf, hf', -, hsame⟩
  · rw [hp, hp']
    exact ⟨hs.setDatabase hdb, fun _ => rfl⟩
  · rw [hf, hf']
    exact ⟨hs, fun heq => by rw [hsame heq]⟩

/-- An insertion over a connection of its own. -/
theorem insert (hd : d.Respells d') (hs : scene.Resembles looked scene')
    (hl : looked d.table.text) (draft : Draft) :
    Ends (Failure.Respelt d.table.text d'.table.text) Eq
        (d.insert draft scene).1 (d'.insert draft scene').1
      ∧ (d.insert draft scene).2.Resembles looked
        (d'.insert draft scene').2 := by
  have hinsert := hs.later.query
    (fun db => db.insert d.table.text draft)
    (fun db => db.insert d'.table.text draft)
    (hs.later.database.insert hd.table hl draft)
  unfold Depot.insert
  rcases hinsert.cases with ⟨db, db', hp, hp', hdb⟩ | ⟨f, f', hf, hf', hE⟩
  · rw [hp, hp']
    exact ⟨.ok rfl, hs.setDatabase hdb⟩
  · rw [hf, hf']
    exact ⟨.error hE, hs⟩

/-- A deletion and an insertion in one transaction. -/
theorem transaction (hd : d.Respells d')
    (hs : scene.Resembles looked scene') (hl : looked d.table.text)
    (l : Location) (draft : Draft) :
    Ends (Failure.Respelt d.table.text d'.table.text)
      (fun db db' => db.Resembles looked db')
      (scene.query fun db => do
        let (_, db) ← db.deleteAt d.table.text l
        db.insert d.table.text draft)
      (scene'.query fun db => do
        let (_, db) ← db.deleteAt d'.table.text l
        db.insert d'.table.text draft) :=
  hs.query _ _ ((hs.database.deleteWhere hd.table hl _).bind
    fun _ _ h => h.2.insert hd.table hl draft)

/-- A replacement in one transaction. -/
theorem replaceAtOnce (hd : d.Respells d')
    (hs : scene.Resembles looked scene') (hl : looked d.table.text)
    (l : Location) (draft : Draft) :
    Ends (Failure.Respelt d.table.text d'.table.text) Eq
        (d.replaceAtOnce l draft scene).1 (d'.replaceAtOnce l draft scene').1
      ∧ (d.replaceAtOnce l draft scene).2.Resembles looked
        (d'.replaceAtOnce l draft scene').2 := by
  have hboth := hd.transaction hs hl l draft
  unfold Depot.replaceAtOnce
  dsimp only
  rcases hboth.cases with ⟨db, db', hp, hp', hdb⟩ | ⟨f, f', hf, hf', hE⟩
  · rw [hp, hp']
    exact ⟨.ok rfl, hs.setDatabase hdb⟩
  · rw [hf, hf']
    exact ⟨.error hE, hs⟩

/-- A replacement, in the way the options ask for. -/
theorem replace (hd : d.Respells d') (hs : scene.Resembles looked scene')
    (hl : looked d.table.text) (l : Location) (draft : Draft) :
    Outcome.Resembles looked d.table.text d'.table.text
      (d.replace l draft scene) (d'.replace l draft scene') := by
  unfold Depot.replace
  rw [hd.options]
  split
  · obtain ⟨hresult, hleft⟩ := hd.replaceAtOnce hs hl l draft
    exact ⟨hresult, hleft, fun _ => rfl⟩
  · obtain ⟨hcleared, hevent⟩ := hd.clear hs hl l
    obtain ⟨hresult, hleft⟩ := hd.insert hcleared hl draft
    exact ⟨hresult, hleft, fun heq => by simp [hevent heq]⟩

theorem store (hd : d.Respells d') (hs : scene.Resembles looked scene')
    (hl : looked d.table.text) (l : Location) (file : String) :
    Outcome.Resembles looked d.table.text d'.table.text
      (d.store l file scene) (d'.store l file scene') := by
  unfold Depot.store
  rw [hd.draft hs]
  cases d.draft scene l file with
  | error f => exact ⟨.error (.refl ..), hs, fun _ => rfl⟩
  | ok draft =>
      have h := hd.replace hs hl l draft
      dsimp only
      rcases h.result.cases with ⟨_, _, hp, hp', -⟩ | ⟨f, f', hf, hf', hE⟩
      · rw [hp, hp']
        exact ⟨.ok rfl, h.scene,
          fun heq => by simp [h.events heq]⟩
      · rw [hf, hf']
        exact ⟨.error hE, h.scene,
          fun heq => by simp [h.events heq, hE.2 heq]⟩

/-- What is fetched, and the files it leaves. -/
theorem fetch (hd : d.Respells d') (hs : scene.Resembles looked scene')
    (hl : looked d.table.text) (l : Location) (target : String) :
    Ends (Failure.Respelt d.table.text d'.table.text) Eq
        (d.fetch l target scene).1 (d'.fetch l target scene').1
      ∧ (d'.fetch l target scene').2 = (d.fetch l target scene).2 := by
  have hnewest := hs.query
    (fun db => db.newest d.table.text l)
    (fun db => db.newest d'.table.text l)
    (hs.database.newest hd.table hl l)
  unfold Depot.fetch
  rcases hnewest.cases with ⟨r, r', hp, hp', rfl⟩ | ⟨f, f', hf, hf', hE⟩
  · rw [hp, hp', hs.files]
    cases r with
    | none => exact ⟨.ok rfl, rfl⟩
    | some r =>
        have hdeliver : d'.deliver r target scene.files
            = d.deliver r target scene.files := by
          unfold Depot.deliver
          rw [hd.options]
        dsimp only
        rw [hdeliver]
        exact ⟨.refl (.refl _ _) (fun _ => rfl) _, rfl⟩
  · rw [hf, hf']
    exact ⟨.error hE, hs.files⟩

theorem download (hd : d.Respells d') (hs : scene.Resembles looked scene')
    (hl : looked d.table.text) (l : Location) (target : String) :
    Outcome.Resembles looked d.table.text d'.table.text
      (d.download l target scene) (d'.download l target scene') := by
  unfold Depot.download
  rw [hs.files]
  rcases Depot.makeRoom scene.files target with ⟨files, _ | failure⟩
  · obtain ⟨hfetch, hfiles⟩ := hd.fetch (hs.setFiles files) hl l target
    dsimp only
    rw [hfiles]
    rcases hfetch.cases with ⟨b, b', hp, hp', rfl⟩ | ⟨f, f', hf, hf', hE⟩
    · rw [hp, hp']
      cases b <;> exact ⟨.ok rfl, hs.setFiles _, fun _ => rfl⟩
    · rw [hf, hf']
      exact ⟨.error hE, hs.setFiles _, fun heq => by simp [hE.2 heq]⟩
  · exact ⟨.error (.refl ..), hs.setFiles _, fun _ => rfl⟩

theorem describe (hd : d.Respells d') (hs : scene.Resembles looked scene')
    (hl : looked d.table.text) (l : Location) :
    Outcome.Resembles looked d.table.text d'.table.text
      (d.describe l scene) (d'.describe l scene') := by
  have hdescribed := hs.query
    (fun db => db.described d.table.text l)
    (fun db => db.described d'.table.text l)
    (hs.database.described hd.table hl l)
  have hfound : Ends (Failure.Respelt d.table.text d'.table.text) Eq
      (d.lookUp l scene) (d'.lookUp l scene') := by
    unfold Depot.lookUp
    refine hdescribed.bind fun r r' hr => ?_
    rw [hr]
    exact .refl (.refl _ _) (fun _ => rfl) _
  unfold Depot.describe
  rcases hfound.cases with ⟨x, x', hp, hp', rfl⟩ | ⟨f, f', hf, hf', hE⟩
  · rw [hp, hp']
    exact ⟨.ok rfl, hs, fun _ => rfl⟩
  · rw [hf, hf']
    exact ⟨.error hE, hs, fun heq => by simp [hE.2 heq]⟩

theorem expire (hd : d.Respells d') (hs : scene.Resembles looked scene')
    (hl : looked d.table.text) (bucket : String) (days : Nat) :
    Outcome.Resembles looked d.table.text d'.table.text
      (d.expire bucket days scene) (d'.expire bucket days scene') := by
  have hcutoff : cutoff scene'.now days = cutoff scene.now days := by
    rw [hs.now]
  unfold Depot.expire
  rw [hcutoff]
  have hdelete := hs.query
    (fun db =>
      db.deleteExpired d.table.text bucket (cutoff scene.now days))
    (fun db =>
      db.deleteExpired d'.table.text bucket (cutoff scene.now days))
    (hs.database.deleteWhere hd.table hl _)
  dsimp only
  rcases hdelete.cases with ⟨⟨count, db⟩, ⟨_, db'⟩, hp, hp', rfl, hdb⟩ |
    ⟨f, f', hf, hf', -, hsame⟩
  · rw [hp, hp']
    exact ⟨.ok rfl, hs.setDatabase hdb, fun _ => rfl⟩
  · rw [hf, hf']
    exact ⟨.ok rfl, hs, fun heq => by simp [hsame heq]⟩

/-- Provisioning over a connection. -/
theorem provision_connected {db db' : Database}
    (h : db.Resembles looked db') (hn : sameName n n' = true)
    (dialect : Dialect) :
    Ends (Failure.Respelt n n') Eq (db.provision dialect n).1
        (db'.provision dialect n').1
      ∧ (db.provision dialect n).2.1.Resembles looked
        (db'.provision dialect n').2.1
      ∧ (n = n' → (db.provision dialect n).2.2
        = (db'.provision dialect n').2.2) := by
  have hsees : dialect.sees db' n' = dialect.sees db n := by
    cases dialect with
    | sqlite => exact h.hasTable hn
    | racy => rfl
  unfold Database.provision
  rw [hsees]
  split
  · exact ⟨.ok rfl, h, fun heq => by rw [heq]⟩
  · rcases (h.create hn dialect.isGuarded).cases with
      ⟨now, now', hc, hc', hnow⟩ | ⟨f, f', hf, hf', hthere, hsame⟩
    · rw [hc, hc']
      exact ⟨.ok rfl, hnow, fun heq => by rw [heq]⟩
    · rw [hf, hf']
      dsimp only
      rw [← hthere]
      split
      · exact ⟨.ok rfl, h, fun heq => by rw [heq, hsame heq]⟩
      · exact ⟨.error ⟨rfl, fun heq => by rw [heq, hsame heq]⟩, h,
          fun heq => by rw [heq]⟩

theorem provision (hd : d.Respells d')
    (hs : scene.Resembles looked scene') :
    Outcome.Resembles looked d.table.text d'.table.text
      (d.provision scene) (d'.provision scene') := by
  unfold Depot.provision
  rw [hd.dialect]
  cases hout : scene.outage with
  | some outage =>
      rw [provision_unreached d.table.accepted hout,
        provision_unreached d'.table.accepted (by rw [hs.outage, hout])]
      exact ⟨.error (.refl ..), hs, fun _ => rfl⟩
  | none =>
      obtain ⟨hresult, hdb, hevents⟩ :=
        provision_connected hs.database hd.table d.dialect
      rw [provision_reached d.table.accepted hout,
        provision_reached d'.table.accepted (by rw [hs.outage, hout])]
      exact ⟨hresult, hs.setDatabase hdb, hevents⟩

end Depot.Respells

-- =============================================================== steps

/-- What a step answers. -/
inductive Answer where
  | done
  | described (found : Option Descriptor)
  | provisioned (how : Provision)
  deriving DecidableEq

/-- The outcome with its value changed. -/
def Outcome.map (f : α → β) (out : Outcome α) : Outcome β where
  result := out.result.map f
  scene := out.scene
  events := out.events

theorem Outcome.Resembles.map {out out' : Outcome α}
    (h : out.Resembles looked n n' out') (f : α → β) :
    (out.map f).Resembles looked n n' (out'.map f) :=
  ⟨h.result.map fun _ _ hab => by rw [hab], h.scene, h.events⟩

namespace Step

variable {s s' : Step} {db db' : Database}

/-- Plays the step on a database and keeps what it answers. -/
def answer (s : Step) (db : Database) : Outcome Answer :=
  let scene := s.scene db
  match s.request with
  | .store l file => (s.depot.store l file scene).map fun _ => .done
  | .download l target => (s.depot.download l target scene).map fun _ => .done
  | .describe l => (s.depot.describe l scene).map .described
  | .expire bucket days =>
    (s.depot.expire bucket days scene).map fun _ => .done
  | .provision => (s.depot.provision scene).map .provisioned

/-- Playing a step is answering it, with the answer left out. -/
theorem forget_answer (s : Step) (db : Database) :
    (s.answer db).forget = s.play db := by
  have hmap : ∀ {γ : Type} (f : γ → Answer) (out : Outcome γ),
      (out.map f).forget = out.forget := by
    intro γ f out
    unfold Outcome.map Outcome.forget
    cases out.result <;> rfl
  have hunit : ∀ out : Outcome Unit, out.forget = out := by
    intro out
    rcases out with ⟨_ | _, _, _⟩ <;> rfl
  unfold answer play
  cases s.request <;> simp only [hmap, hunit]

theorem answer_database (s : Step) (db : Database) :
    (s.answer db).scene.database = s.after db := by
  unfold after
  rw [← forget_answer]
  rfl

/-- Two steps that are the same but for the spelling of the table
name. -/
structure Respells (s s' : Step) : Prop where
  depot : s.depot.Respells s'.depot
  rest : s' = { s with depot := s'.depot }

theorem Respells.refl (s : Step) : s.Respells s :=
  ⟨⟨rfl, rfl, sameName_self _⟩, rfl⟩

/-- They are played in scenes that resemble each other. -/
theorem Respells.scenes (hs : s.Respells s') (h : db.Resembles looked db')
    (hl : looked s.table) :
    (s.scene db).Resembles looked (s'.scene db') := by
  obtain ⟨hd, hrest⟩ := hs
  rw [hrest]
  exact ⟨rfl, rfl, rfl, rfl, rfl,
    ((h.blockDeletes hd.table hl _).blockInserts hd.table hl _)⟩

/-- Two spellings of a step come to outcomes that resemble each
other. -/
theorem Respells.answer (hs : s.Respells s') (h : db.Resembles looked db')
    (hl : looked s.table) :
    (s.answer db).Resembles looked s.table s'.table (s'.answer db') := by
  have hscene := hs.scenes h hl
  have hd := hs.depot
  have hrequest : s'.request = s.request := by rw [hs.rest]
  unfold Step.answer
  rw [hrequest]
  cases s.request with
  | store l file => exact (hd.store hscene hl l file).map _
  | download l target => exact (hd.download hscene hl l target).map _
  | describe l => exact (hd.describe hscene hl l).map _
  | expire bucket days => exact (hd.expire hscene hl bucket days).map _
  | provision => exact (hd.provision hscene).map _

/-- A step that has not created a table leaves the objects. -/
theorem alike_of_not_created (s : Step) (db : Database)
    (h : (s.answer db).result ≠ .ok (.provisioned .created)) :
    db.Alike (s.after db) := by
  have hmeets := s.alike_meets db
  rw [← answer_database]
  unfold answer at h ⊢
  cases hask : s.request with
  | store l file =>
      exact hmeets.trans (s.depot.edits_store l (s.scene db) file).alike
  | expire bucket days =>
      exact hmeets.trans
        (s.depot.edits_expire (P := s.Drafts db) (s.scene db) bucket days).alike
  | download l target =>
      dsimp only [Outcome.map]
      rw [s.depot.download_database]
      exact hmeets
  | describe l =>
      have hdb := s.depot.describe_database l (s.scene db)
      dsimp only [Outcome.map, Outcome.forget] at hdb ⊢
      rw [hdb]
      exact hmeets
  | provision =>
      rw [hask] at h
      dsimp only [Outcome.map, Depot.provision] at h ⊢
      rcases provision_reach s.depot.table.text (s.scene db) with
        ⟨f, hf⟩ | hreach
      · rw [hf]
        exact hmeets
      · rw [hreach] at h ⊢
        rcases Database.provision_cases s.depot.dialect s.depot.table.text
            (s.scene db).database with ⟨-, hdb⟩ | ⟨hcreated, -⟩
        · dsimp only
          rw [hdb]
          exact hmeets
        · rw [hcreated] at h
          exact absurd rfl h

/-- What a step answers, tells and leaves does not depend on what other
tables hold. -/
theorem answer_of_alike (s : Step) {other : Database}
    (h : db.Alike other)
    (htable : other.content s.table = db.content s.table) :
    (s.answer other).result = (s.answer db).result
      ∧ (s.answer other).scene.files = (s.answer db).scene.files
      ∧ (s.answer other).events = (s.answer db).events
      ∧ (s.after other).content s.table = (s.after db).content s.table := by
  have hcontent : ∀ name, sameName s.table name = true →
      other.content name = db.content name := by
    intro name hname
    unfold Database.content at *
    rw [← Database.table?_congr hname, ← Database.table?_congr hname]
    exact htable
  have hout := (Respells.refl s).answer (h.resembles hcontent)
    (sameName_self s.table)
  refine ⟨?_, hout.scene.files, (hout.events rfl).symm, ?_⟩
  · rcases hout.result.cases with ⟨a, b, ha, hb, rfl⟩ | ⟨f, f', hf, hf', hE⟩
    · rw [ha, hb]
    · rw [hf, hf', hE.2 rfl]
  · rw [← answer_database, ← answer_database]
    exact hout.scene.database.content s.table (sameName_self s.table)

end Step

-- ============================================================ sessions

/-- Outcomes that are the same but for how names are spelt in failures
and events: the same value or failures of one kind, the same files, and
databases whose tables hold the same. -/
structure Outcome.Same (out out' : Outcome α) : Prop where
  result : out'.result.mapError Failure.kind
    = out.result.mapError Failure.kind
  files : out'.scene.files = out.scene.files
  content : ∀ name, out'.scene.database.content name
    = out.scene.database.content name

theorem Outcome.Resembles.same {out out' : Outcome α}
    (h : Outcome.Resembles (fun _ => True) n n' out out') :
    out.Same out' where
  result := by
    rcases h.result.cases with ⟨a, b, ha, hb, rfl⟩ | ⟨f, f', hf, hf', hE⟩
    · rw [ha, hb]
    · rw [hf, hf']
      exact congrArg Except.error hE.1.symm
  files := h.scene.files
  content := fun name => h.scene.database.content name trivial

/-- Two spellings of a session agree in every step and in the end. -/
theorem trace_respelt {steps steps' : List Step} {db db' : Database}
    (hsteps : List.Forall₂ Step.Respells steps steps')
    (h : db.Resembles (fun _ => True) db') :
    List.Forall₂
        (fun p p' => (p.1.answer p.2).Same (p'.1.answer p'.2))
        (trace db steps) (trace db' steps')
      ∧ (session db steps).Resembles (fun _ => True)
        (session db' steps') := by
  induction hsteps generalizing db db' with
  | nil => exact ⟨.nil, h⟩
  | cons hs _ ih =>
      have hout := hs.answer h trivial
      have hafter := hout.scene.database
      rw [Step.answer_database, Step.answer_database] at hafter
      obtain ⟨htrace, hend⟩ := ih hafter
      exact ⟨.cons hout.same htrace, hend⟩

/-- Tables do not interfere, and the spelling of a table name does not
matter, in every session.

A step leaves every table of another name: its records and the ids it
has given out, and whether it is there. Only the counter book may come
into being, and that with a table that was created. What the step
answers, the files it leaves, what it tells and what its own table holds
afterwards are the same whatever the other tables hold. And a session in
which names are spelt otherwise answers every step alike: it succeeds
with the same value or fails for a reason of the same kind, leaves the
same files, and its tables hold the same records under the same ids. -/
theorem tables_isolated (db : Database) (steps : List Step) :
    (∀ p ∈ trace db steps, ∀ name, sameName p.1.table name = false →
        (p.1.after p.2).table? name = p.2.table? name
          ∧ (sameName counterBook name = false
              ∨ (p.1.answer p.2).result ≠ .ok (.provisioned .created) →
            (p.1.after p.2).hasTable name = p.2.hasTable name))
      ∧ (∀ p ∈ trace db steps, ∀ other : Database, p.2.Alike other →
          other.content p.1.table = p.2.content p.1.table →
            (p.1.answer other).result = (p.1.answer p.2).result
              ∧ (p.1.answer other).scene.files
                = (p.1.answer p.2).scene.files
              ∧ (p.1.answer other).events = (p.1.answer p.2).events
              ∧ (p.1.after other).content p.1.table
                = (p.1.after p.2).content p.1.table)
      ∧ ∀ steps', List.Forall₂ Step.Respells steps steps' →
          List.Forall₂
              (fun p p' => (p.1.answer p.2).Same (p'.1.answer p'.2))
              (trace db steps) (trace db steps')
            ∧ ∀ name, (session db steps').content name
              = (session db steps).content name := by
  refine ⟨?frame, ?apart, ?respelt⟩
  case frame =>
    rintro ⟨s, now⟩ - name hn
    refine ⟨s.after_table?_of_ne now hn, ?_⟩
    rintro (hbook | hcreated)
    · exact s.after_hasTable_of_ne now hn hbook
    · exact (s.alike_of_not_created now hcreated).hasTable name
  case apart =>
    rintro ⟨s, now⟩ - other halike htable
    exact s.answer_of_alike halike htable
  case respelt =>
    intro steps' hsteps
    obtain ⟨htrace, hend⟩ := trace_respelt hsteps (.refl _ db)
    exact ⟨htrace, fun name => hend.content name trivial⟩

/-- Two tables, one spelt in two ways: a store into the one leaves the
other, does not depend on it, and is the same under both spellings. -/
theorem tables_isolated_small :
    let db : Database := (Database.provision .sqlite "u" smallDatabase).2.1
    let s := smallStore 0
    let s' : Step :=
      { smallStore 0 with depot := ⟨.sqlite, ⟨"T", by decide⟩, ⟨16, 2, false⟩⟩ }
    let other : Database := { db with
      tables := [Database.newTable "t", { Database.newTable "u" with
        highest := 7, blocksInserts := true }] }
    (s.after db).table? "u" = db.table? "u"
      ∧ (s.answer other).result = (s.answer db).result
      ∧ (s.answer db).Same (s'.answer db)
      ∧ (session db [s']).content "t" = (session db [s]).content "t" := by
  intro db s s' other
  obtain ⟨hframe, hapart, hrespelt⟩ := tables_isolated db [s]
  have hs : s.Respells s' := ⟨⟨rfl, rfl, by decide⟩, rfl⟩
  have halike : db.Alike other := ⟨by decide, rfl, rfl, rfl, rfl⟩
  have htable : other.content "t" = db.content "t" := by decide
  obtain ⟨hsame, hcontent⟩ := hrespelt [s'] (.cons hs .nil)
  have hfirst : (s, db) ∈ trace db [s] := List.mem_cons_self
  cases hsame with
  | cons hstep _ =>
      exact ⟨(hframe _ hfirst "u" (by decide)).1,
        (hapart _ hfirst other halike htable).1, hstep, hcontent "t"⟩

end FileDepot
