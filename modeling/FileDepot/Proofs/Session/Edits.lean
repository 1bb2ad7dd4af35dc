/-
What the operations of a depot do to a database, as edits of one table.

A statement puts a table back in the place of the one of its name, and
the new one has some records of the old one and drafts that the operation
has made, with other blocks perhaps. `Edits` is any number of these, so
all that one such edit keeps is kept by every operation, with one
induction and without another look at how an operation ends.

A step edits the table it works on (`Step.after_edits`), unless it
creates that table; then it has done nothing else.
-/
import FileDepot.Proofs.Session.Basic

namespace FileDepot

namespace Database

variable {n name : String} {P Q : Draft → Prop} {db db' : Database}

/-- A database is what edits of the table of a name have made of another.
What they have added to its records are drafts of some kind. -/
inductive Edits (n : String) (P : Draft → Prop) (db : Database) :
    Database → Prop
  | nothing : Edits n P db db
  | put {mid : Database} {t u : Table} (h : Edits n P db mid)
      (ht : mid.table? n = some t) (hname : u.name = t.name)
      (hadds : ∀ r ∈ u.records, r ∈ t.records ∨ P r.toDraft) :
      Edits n P db (mid.setTable u)

/-- A table found under a name has that name. -/
theorem sameName_of_table?_eq {t : Table} (h : db.table? n = some t) :
    sameName t.name n = true :=
  List.find?_some (p := fun u : Table => sameName u.name n) h

namespace Edits

/-- Edits go on from where they were left. -/
theorem trans {db'' : Database} (h : db.Edits n P db')
    (h' : db'.Edits n P db'') : db.Edits n P db'' := by
  induction h' with
  | nothing => exact h
  | put _ ht hname hadds ih => exact .put ih ht hname hadds

/-- Drafts of some kind are also of a wider one. -/
theorem mono (h : db.Edits n P db') (hPQ : ∀ draft, P draft → Q draft) :
    db.Edits n Q db' := by
  induction h with
  | nothing => exact .nothing
  | put _ ht hname hadds ih =>
      exact .put ih ht hname fun r hr => (hadds r hr).imp_right (hPQ _)

-- ======================================================== statements

/-- A deletion adds nothing. -/
theorem deleteWhere {picked : Draft → Bool} {p : Nat × Database}
    (h : db.deleteWhere n picked = .ok p) : db.Edits n P p.2 := by
  obtain ⟨t, ht, hp⟩ := deleteWhere_ok h
  rw [hp]
  refine .put .nothing (holds_iff.mp ht).2 rfl fun r hr => ?_
  exact .inl (List.mem_filter.mp hr).1

/-- An insertion adds its draft. -/
theorem insert {draft : Draft} (h : db.insert n draft = .ok db')
    (hP : P draft) : db.Edits n P db' := by
  obtain ⟨t, ht, hdb⟩ := insert_ok h
  rw [hdb]
  refine .put .nothing (holds_iff.mp ht).2 rfl fun r hr => ?_
  rcases List.mem_cons.mp ((Table.insertSorted_perm ..).subset hr) with
    rfl | hr
  · exact .inr hP
  · exact .inl hr

theorem blockDeletes (n : String) (db : Database) (on : Bool) :
    db.Edits n P (db.blockDeletes n on) := by
  unfold Database.blockDeletes
  cases ht : db.table? n with
  | none => exact .nothing
  | some t => exact .put .nothing ht rfl fun r hr => .inl hr

theorem blockInserts (n : String) (db : Database) (on : Bool) :
    db.Edits n P (db.blockInserts n on) := by
  unfold Database.blockInserts
  cases ht : db.table? n with
  | none => exact .nothing
  | some t => exact .put .nothing ht rfl fun r hr => .inl hr

-- ====================================================== what is kept

/-- Edits leave the tables of other names. -/
theorem table?_of_ne (h : db.Edits n P db')
    (hn : sameName n name = false) : db'.table? name = db.table? name := by
  induction h with
  | nothing => rfl
  | put _ ht hname _ ih =>
      have hu := sameName_of_table?_eq ht
      rw [table?_setTable, hname, sameName_congr hu, hn, if_neg (by simp),
        ih]

/-- What stands in a table after edits stood there before or is one of
the drafts. -/
theorem mem_records (h : db.Edits n P db') {name : String} {r : Record}
    (hr : r ∈ db'.records name) : r ∈ db.records name ∨ P r.toDraft := by
  induction h with
  | nothing => exact .inl hr
  | @put mid t u _ ht hname hadds ih =>
      unfold Database.records at hr ih
      have hu := sameName_of_table?_eq ht
      rw [table?_setTable, hname, sameName_congr hu] at hr
      cases hsame : sameName n name with
      | false =>
          rw [hsame, if_neg (by simp)] at hr
          exact ih hr
      | true =>
          rw [hsame, if_pos rfl, ← table?_congr hsame, ht] at hr
          rw [← table?_congr hsame, ht] at ih
          exact (hadds r hr).elim ih .inr

end Edits

end Database

-- ========================================================= operations

namespace Depot

variable {P : Draft → Prop} (d : Depot) (l : Location) (scene : Scene)

/-- A deletion in a statement of its own adds nothing. -/
theorem edits_clear :
    scene.database.Edits d.table.text P (d.clear l scene).1.database := by
  rcases d.clear_cases l scene with ⟨p, hdel, hleft⟩ | ⟨f, -, hleft⟩
  · rw [hleft]
    exact .deleteWhere (Scene.query_ok hdel).2
  · rw [hleft]
    exact .nothing

/-- Putting a draft in the place of the records of a location adds that
draft at most, in one transaction as in two statements. -/
theorem edits_replace (draft : Draft) :
    scene.database.Edits d.table.text (· = draft)
      (d.replace l draft scene).scene.database := by
  unfold replace
  cases d.options.atomicOverwrite with
  | true =>
      rcases d.replaceAtOnce_cases l draft scene with
        ⟨p, db, hdel, hins, h⟩ | ⟨f, -, h⟩
      · simp only [h, if_true]
        exact .trans (.deleteWhere (Scene.query_ok hdel).2)
          (.insert hins rfl)
      · simp only [h, if_true]
        exact .nothing
  | false =>
      have hclear := d.edits_clear (P := (· = draft)) l scene
      rcases d.insert_cases draft (d.clear l scene).1 with
        ⟨db, hins, h⟩ | ⟨f, -, h⟩
      · simp only [h, Bool.false_eq_true, if_false]
        exact hclear.trans (.insert hins rfl)
      · simp only [h, Bool.false_eq_true, if_false]
        exact hclear

/-- A store adds the draft it makes at most. -/
theorem edits_store (file : String) :
    scene.database.Edits d.table.text
      (fun draft => d.draft scene l file = .ok draft)
      (d.store l file scene).scene.database := by
  unfold store
  cases hread : d.draft scene l file with
  | error f => exact .nothing
  | ok draft =>
      have hedits : scene.database.Edits d.table.text
          (fun other => .ok draft = (.ok other : Except Failure Draft))
          (d.replace l draft scene).scene.database :=
        (d.edits_replace l scene draft).mono fun other h => by rw [h]
      dsimp only
      cases hresult : (d.replace l draft scene).result with
      | ok _ => exact hedits
      | error f => exact hedits

/-- An expiry adds nothing. -/
theorem edits_expire (bucket : String) (days : Nat) :
    scene.database.Edits d.table.text P
      (d.expire bucket days scene).scene.database := by
  rcases d.expire_cases bucket days scene with
    ⟨p, hdel, hleft⟩ | ⟨f, -, hleft⟩
  · rw [hleft]
    exact .deleteWhere (Scene.query_ok hdel).2
  · rw [hleft]
    exact .nothing

/-- A download leaves the database. -/
theorem download_database (d : Depot) (l : Location) (target : String)
    (scene : Scene) :
    (d.download l target scene).scene.database = scene.database := by
  unfold download
  rcases makeRoom scene.files target with ⟨files, _ | failure⟩
  · dsimp only
    split <;> rfl
  · rfl

/-- A description leaves the database. -/
theorem describe_database (d : Depot) (l : Location) (scene : Scene) :
    (d.describe l scene).forget.scene.database = scene.database := by
  unfold describe Outcome.forget
  cases d.lookUp l scene with
  | ok found => rfl
  | error f => rfl

/-- Provisioning leaves the database or does what it does over a
connection. -/
theorem provision_database (d : Depot) (scene : Scene) :
    (d.provision scene).forget.scene.database = scene.database
      ∨ (d.provision scene).forget.scene.database
        = (scene.database.provision d.dialect d.table.text).2.1 := by
  unfold Depot.provision FileDepot.provision Outcome.forget
  cases TableName.ofText d.table.text with
  | error fault => exact .inl rfl
  | ok name =>
      cases scene.outage with
      | some outage => exact .inl rfl
      | none => exact .inr rfl

end Depot

-- ============================================================== steps

namespace Step

variable {s : Step}

/-- A step that only looks leaves the database it meets, or that
database provisioned. -/
theorem after_of_looks (hask : s.request.looks = true) (db : Database) :
    s.after db = s.meets db
      ∨ s.after db
        = ((s.meets db).provision s.depot.dialect s.table).2.1 := by
  unfold after play
  cases hr : s.request with
  | store l file => rw [hr] at hask; cases hask
  | expire bucket days => rw [hr] at hask; cases hask
  | download l target => exact .inl (s.depot.download_database l target _)
  | describe l => exact .inl (s.depot.describe_database l _)
  | provision => exact s.depot.provision_database _

/-- The draft is one that the step makes for its store. -/
def Drafts (s : Step) (db : Database) (draft : Draft) : Prop :=
  ∃ l file, s.request = .store l file
    ∧ s.depot.draft (s.scene db) l file = .ok draft

/-- A step meets a database with other blocks. -/
theorem edits_meets {P : Draft → Prop} (s : Step) (db : Database) :
    db.Edits s.table P (s.meets db) :=
  .trans (.blockDeletes ..) (.blockInserts ..)

/-- A step edits the table it works on and adds the draft of its store at
most, or it creates that table in the database it meets. -/
theorem after_edits (s : Step) (db : Database) :
    db.Edits s.table (s.Drafts db) (s.after db)
      ∨ ((s.meets db).Admits s.table
        ∧ s.after db = (s.meets db).withTable s.table) := by
  have hmeets := s.edits_meets (P := s.Drafts db) db
  cases hlooks : s.request.looks with
  | true =>
      rcases s.after_of_looks hlooks db with hafter | hafter
      · rw [hafter]
        exact .inl hmeets
      · rw [hafter]
        rcases Database.provision_cases s.depot.dialect s.table
            (s.meets db) with ⟨-, hleft⟩ | ⟨-, hfree, hleft⟩
        · rw [hleft]
          exact .inl hmeets
        · exact .inr ⟨hfree, hleft⟩
  | false =>
      left
      refine hmeets.trans ?_
      unfold after play
      cases hask : s.request with
      | download l target => rw [hask] at hlooks; cases hlooks
      | describe l => rw [hask] at hlooks; cases hlooks
      | provision => rw [hask] at hlooks; cases hlooks
      | expire bucket days =>
          exact s.depot.edits_expire (s.scene db) bucket days
      | store l file =>
          refine (s.depot.edits_store l (s.scene db) file).mono ?_
          intro draft hread
          exact ⟨l, file, hask, hread⟩

end Step

end FileDepot
