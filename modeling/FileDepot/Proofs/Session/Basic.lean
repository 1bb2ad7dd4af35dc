/-
Sessions: depots asked for one operation after another on one database.

A step is an operation together with everything it meets apart from the
database, namely the files, the clock, the name of the host, outages and
blocked statements. Nothing ties the surroundings of one step to those of
the next, so a statement about all sessions covers every way in which
files come and go, clocks are set and statements fail in between, and any
number of depots with any options.

# Ghosts

What a session has done is its trace: the steps, each with the database
it was played on. Every account kept beside a database (a map of
contents, what became of a location, the records written so far) is a
function of the trace, so all of them share the one induction below
(`session_induction`), which hands a step the trace in front of it.
-/
import FileDepot.Depot.Describe
import FileDepot.Depot.Download
import FileDepot.Depot.Expire
import FileDepot.Proofs.Store

namespace FileDepot

-- ============================================================ expiry

/-- The deletion of an expiry. -/
def Depot.expiry (d : Depot) (bucket : String) (days : Nat)
    (scene : Scene) : Except Failure (Nat × Database) :=
  scene.query fun db =>
    db.deleteExpired d.table.text bucket (cutoff scene.now days)

/-- What an expiry leaves. -/
theorem Depot.expire_cases (d : Depot) (bucket : String) (days : Nat)
    (scene : Scene) :
    (∃ p, d.expiry bucket days scene = .ok p
        ∧ (d.expire bucket days scene).scene
            = { scene with database := p.2 })
      ∨ ∃ f, d.expiry bucket days scene = .error f
        ∧ (d.expire bucket days scene).scene = scene := by
  unfold expire expiry
  dsimp only
  cases scene.query fun db => db.deleteExpired d.table.text bucket
      (cutoff scene.now days) with
  | ok p => exact .inl ⟨p, rfl, rfl⟩
  | error f => exact .inr ⟨f, rfl, rfl⟩

-- ============================================================= steps

/-- What a depot is asked for. -/
inductive Request where
  | store (l : Location) (file : String)
  | download (l : Location) (target : String)
  | describe (l : Location)
  | expire (bucket : String) (days : Nat)
  | provision
  deriving DecidableEq, Repr

/-- A request that only looks at the records of a table. -/
def Request.looks : Request → Bool
  | .store _ _ | .expire _ _ => false
  | .download _ _ | .describe _ | .provision => true

/-- One operation of a depot and what it meets apart from the
database. -/
structure Step where
  depot : Depot
  request : Request
  files : FileTree
  now : Int
  host : String
  outage : Option Outage := none
  secondOutage : Option (Option Outage) := none
  blocksDeletes : Bool := false
  blocksInserts : Bool := false
  deriving DecidableEq, Repr

/-- The outcome with its value left out. -/
def Outcome.forget {α : Type} (out : Outcome α) : Outcome Unit where
  result := out.result.map fun _ => ()
  scene := out.scene
  events := out.events

/-- The records in the table of a name. -/
def Database.records (db : Database) (name : String) : List Record :=
  (db.table? name).elim [] Table.records

namespace Step

/-- The name of the table the step works on. -/
def table (s : Step) : String := s.depot.table.text

/-- The step works on the table of a name. -/
def isOn (s : Step) (name : String) : Prop :=
  sameName s.table name = true

instance (s : Step) (name : String) : Decidable (s.isOn name) :=
  inferInstanceAs (Decidable (_ = true))

/-- The database with those statements blocked that the step finds
blocked. -/
def meets (s : Step) (db : Database) : Database :=
  (db.blockDeletes s.table s.blocksDeletes).blockInserts s.table
    s.blocksInserts

/-- The scene of the step on a database. -/
def scene (s : Step) (db : Database) : Scene where
  files := s.files
  database := s.meets db
  now := s.now
  host := s.host
  outage := s.outage
  secondOutage := s.secondOutage

/-- Plays the step on a database. -/
def play (s : Step) (db : Database) : Outcome Unit :=
  let scene := s.scene db
  match s.request with
  | .store l file => s.depot.store l file scene
  | .download l target => s.depot.download l target scene
  | .describe l => (s.depot.describe l scene).forget
  | .expire bucket days => s.depot.expire bucket days scene
  | .provision => (s.depot.provision scene).forget

/-- The database the step leaves. -/
def after (s : Step) (db : Database) : Database :=
  (s.play db).scene.database

/-- The step deletes records, and the deletion fails: there is no
connection for it or its statement is refused. A transaction that gets
no connection has no deletion that could fail. -/
def deletionFails (s : Step) (db : Database) : Bool :=
  match s.request with
  | .store l file =>
    (s.depot.draft (s.scene db) l file).isOk
      && !(s.depot.deletion l (s.scene db)).isOk
      && !(s.depot.options.atomicOverwrite && s.outage.isSome)
  | .expire bucket days =>
    !(s.depot.expiry bucket days (s.scene db)).isOk
  | _ => false

/-- The step is a store at a location that succeeds. -/
def StoresAt (s : Step) (db : Database) (l : Location) : Prop :=
  ∃ file, s.request = .store l file ∧ (s.play db).result = .ok ()

namespace StoresAt

variable {s : Step} {db : Database} {l : Location}

/-- A step that only looks stores nothing. -/
theorem not_looks (hask : s.request.looks = true) : ¬s.StoresAt db l := by
  intro hstores
  obtain ⟨file, h, -⟩ := hstores
  rw [h] at hask
  cases hask

/-- An expiry stores nothing. -/
theorem not_expire {bucket : String} {days : Nat}
    (hask : s.request = .expire bucket days) : ¬s.StoresAt db l := by
  intro hstores
  obtain ⟨file, h, -⟩ := hstores
  rw [hask] at h
  cases h

/-- A step that fails stores nothing. -/
theorem not_error {f : Failure}
    (hresult : (s.play db).result = .error f) : ¬s.StoresAt db l := by
  intro hstores
  obtain ⟨file, -, hok⟩ := hstores
  rw [hok] at hresult
  cases hresult

/-- A store stores at its own location only. -/
theorem location_eq {k : Location} {file : String}
    (h : s.StoresAt db k) (hask : s.request = .store l file) : k = l := by
  obtain ⟨file', hask', -⟩ := h
  rw [hask] at hask'
  injection hask' with hl
  exact hl.symm

end StoresAt

/-- The records the step has written: those that stand in the table
after it and did not before. -/
def written (s : Step) (db : Database) (name : String) : List Record :=
  ((s.after db).records name).filter fun r => r ∉ db.records name

end Step

-- ========================================================== sessions

/-- The database after a session. -/
def session (db : Database) (steps : List Step) : Database :=
  steps.foldl (fun db s => s.after db) db

/-- The steps of a session, each with the database it is played on. -/
def trace (db : Database) : List Step → List (Step × Database)
  | [] => []
  | s :: rest => (s, db) :: trace (s.after db) rest

/-- The last step of a session is played on what the others leave. -/
theorem session_append (db : Database) (steps : List Step) (s : Step) :
    session db (steps ++ [s]) = s.after (session db steps) := by
  unfold session
  rw [List.foldl_append]
  rfl

/-- The trace of a session ends with its last step. -/
theorem trace_append (db : Database) (steps : List Step) (s : Step) :
    trace db (steps ++ [s]) = trace db steps ++ [(s, session db steps)] := by
  induction steps generalizing db with
  | nil => rfl
  | cons first rest ih =>
      rw [List.cons_append, trace, trace, ih, List.cons_append]
      rfl

/-- The steps of a trace are those of the session. -/
theorem mem_of_mem_trace {db : Database} {steps : List Step}
    {p : Step × Database} (h : p ∈ trace db steps) : p.1 ∈ steps := by
  induction steps generalizing db with
  | nil => cases h
  | cons first rest ih =>
      rcases List.mem_cons.mp h with rfl | h
      · exact List.mem_cons_self ..
      · exact List.mem_cons_of_mem _ (ih h)

/-- What holds of some steps and of one more holds of them together. -/
theorem forall_mem_concat {P : Step × Database → Prop}
    {steps : List (Step × Database)} {p : Step × Database}
    (h : ∀ q ∈ steps, P q) (hp : P p) : ∀ q ∈ steps ++ [p], P q := by
  intro q hq
  rcases List.mem_append.mp hq with hq | hq
  · exact h q hq
  · rw [List.mem_singleton.mp hq]
    exact hp

/-- What holds of the empty trace and is kept by every step holds of all
sessions. -/
theorem session_induction {db : Database}
    {P : List (Step × Database) → Database → Prop}
    (start : P [] db)
    (step : ∀ past now s, P past now →
      P (past ++ [(s, now)]) (s.after now)) :
    ∀ steps, P (trace db steps) (session db steps) := by
  suffices h : ∀ reversed : List Step,
      P (trace db reversed.reverse) (session db reversed.reverse) by
    intro steps
    have := h steps.reverse
    rwa [List.reverse_reverse] at this
  intro reversed
  induction reversed with
  | nil => exact start
  | cons s rest ih =>
      rw [List.reverse_cons, trace_append, session_append]
      exact step _ _ s ih

-- =================================================== a small session

/-- A database with the empty table `t`. -/
def smallDatabase : Database :=
  (Database.provision .sqlite "t" {}).2.1

/-- The table of the small database has just been provisioned. -/
theorem smallDatabase_isNew : smallDatabase.IsNew "t" :=
  ⟨.sqlite, {}, rfl, rfl⟩

/-- A step on the table `t` that stores a file of three bytes. -/
def smallStore (now : Int) : Step where
  depot := ⟨.sqlite, ⟨"t", by decide⟩, ⟨16, 2, false⟩⟩
  request := .store ⟨"b", "n"⟩ "f"
  files := { nodes := [(["f"], .file [1, 2, 3])] }
  now := now
  host := "h"

end FileDepot
