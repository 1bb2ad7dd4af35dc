/-
The two ways to overwrite agree as long as nothing fails.

Both ways read the source first and then delete and insert, in one
transaction or in two statements. With a source that is read, each way
has one equation: a transaction takes place as a whole or leaves the
scene (`ending_atomic`), and of two statements the second starts from
whatever the first has left (`ending_plain`). A deletion that takes
place leaves the same database in both, so the insertion is the same
statement on the same database and gives out the same id.

# A deletion that is refused

Here the ways part. The transaction fails with the fault of the
deletion. In two statements the fault is passed over, and the insertion
alone decides: where it takes place the old records stay beside the new
one, which has an id above theirs (`Database.Gained`), as the tables of
every database that statements have made are numbered
(`Database.Made.numbered`).
-/
import FileDepot.Proofs.Numbering

namespace FileDepot

-- ================================================== one more record

namespace Database

variable {db : Database} {name : String} {d : Draft}

/-- A database is another one with one more record in one table: the
record stands last there and its id is above those of the others and
above the highest there ever was; the tables of other names are as they
were. -/
structure Gained (before : Database) (name : String) (r : Record)
    (after : Database) : Prop where
  table : ∃ t, before.table? name = some t
    ∧ after = before.setTable
        { t with records := t.records ++ [r], highest := r.id }
    ∧ t.highest < r.id ∧ ∀ s ∈ t.records, s.id < r.id
  others : ∀ other, sameName other name = false →
    after.table? other = before.table? other

/-- An insertion that takes place adds one record. -/
theorem Numbered.gained (h : db.Numbered) {after : Database}
    (hi : db.insert name d = .ok after) :
    ∃ r : Record, r.toDraft = d ∧ db.Gained name r after := by
  obtain ⟨t, ht, rfl⟩ := insert_ok hi
  have hnumbered := h.holds ht
  have happend : t.append d
      = { t with
          records := t.records ++ [⟨d, t.nextId⟩], highest := t.nextId } := by
    rw [← hnumbered.records_append d, ← t.append_highest d]
    rfl
  refine ⟨⟨d, t.nextId⟩, rfl, ⟨t, (holds_iff.mp ht).2, ?_, ?_, ?_⟩, ?_⟩
  · rw [happend]
  · exact t.highest_lt_nextId
  · intro s hs
    have hle := hnumbered.bounded s hs
    have hlt := t.highest_lt_nextId
    show s.id < t.nextId
    omega
  · intro other hother
    have hne : sameName (t.append d).name other = false := by
      show sameName t.name other = false
      rw [sameName_congr ht.sameName, sameName_comm]
      exact hother
    rw [table?_setTable, hne, if_neg (by simp)]

end Database

-- ========================================================= both ways

namespace Depot

variable {d : Depot} {l : Location} {file : String} {scene : Scene}
  {draft : Draft}

/-- The depot with all its options but the way to overwrite. -/
def overwriting (d : Depot) (atomic : Bool) : Depot :=
  { d with options := { d.options with atomicOverwrite := atomic } }

/-- How a store ends in one of the ways: its result and the scene it
leaves. -/
def ending (d : Depot) (atomic : Bool) (l : Location) (file : String)
    (scene : Scene) : Except Failure Unit × Scene :=
  (((d.overwriting atomic).store l file scene).result,
    ((d.overwriting atomic).store l file scene).scene)

/-- Without a source both ways end at once. -/
theorem ending_unread {f : Failure} (h : d.draft scene l file = .error f)
    (atomic : Bool) : d.ending atomic l file scene = (.error f, scene) := by
  unfold ending store
  rw [show (d.overwriting atomic).draft scene l file = .error f from h]

/-- With a source a store ends as the replacement does. -/
theorem ending_of_draft (h : d.draft scene l file = .ok draft)
    (atomic : Bool) :
    d.ending atomic l file scene
      = (((d.overwriting atomic).replace l draft scene).result,
        ((d.overwriting atomic).replace l draft scene).scene) := by
  unfold ending store
  rw [show (d.overwriting atomic).draft scene l file = .ok draft from h]
  dsimp only
  cases ((d.overwriting atomic).replace l draft scene).result with
  | ok _ => rfl
  | error failure => rfl

/-- A transaction ends as a whole. -/
theorem ending_atomic (h : d.draft scene l file = .ok draft) :
    d.ending true l file scene = d.replaceAtOnce l draft scene :=
  ending_of_draft h true

/-- Two statements end as the insertion does, on what the deletion has
left. -/
theorem ending_plain (h : d.draft scene l file = .ok draft) :
    d.ending false l file scene
      = d.insert draft (d.clear l scene).1 :=
  ending_of_draft h false

/-- How an insertion ends on a database: with the record in it, or with
the fault of the statement and the scene as it was. -/
def insertion (d : Depot) (draft : Draft) (scene : Scene) :
    Except Failure Unit × Scene :=
  match scene.database.insert d.table.text draft with
  | .ok db => (.ok (), { scene with database := db })
  | .error fault => (.error (.database fault), scene)

/-- With a connection an insertion ends as its statement does. -/
theorem insert_eq (h : scene.later.outage = none) :
    d.insert draft scene = d.insertion draft scene := by
  unfold Depot.insert insertion
  rw [Scene.query_of_outage h]
  dsimp only [Scene.later]
  cases scene.database.insert d.table.text draft with
  | ok db => rfl
  | error fault => rfl

/-- With a connection a transaction whose deletion takes place ends as
the insertion does, with the scene as it was if that fails. -/
theorem replaceAtOnce_of_deletion {p : Nat × Database}
    (h : d.deletion l scene = .ok p) :
    d.replaceAtOnce l draft scene
      = match p.2.insert d.table.text draft with
        | .ok db => (.ok (), { scene with database := db })
        | .error fault => (.error (.database fault), scene) := by
  obtain ⟨hout, hdel⟩ := Scene.query_ok h
  unfold replaceAtOnce
  rw [Scene.query_of_outage hout, hdel]
  dsimp only [ok_bind]
  cases p.2.insert d.table.text draft with
  | ok db => rfl
  | error fault => rfl

/-- A transaction whose deletion is refused fails with its fault. -/
theorem replaceAtOnce_of_refused (hout : scene.outage = none)
    {fault : DatabaseFault}
    (h : scene.database.deleteAt d.table.text l = .error fault) :
    d.replaceAtOnce l draft scene = (.error (.database fault), scene) := by
  unfold replaceAtOnce
  rw [Scene.query_of_outage hout, h]
  rfl

theorem clear_of_deletion {p : Nat × Database}
    (h : d.deletion l scene = .ok p) :
    (d.clear l scene).1 = { scene with database := p.2 } := by
  rcases d.clear_cases l scene with ⟨q, hq, hleft⟩ | ⟨f, hf, -⟩
  · rw [h] at hq
    cases hq
    exact hleft
  · rw [h] at hf
    cases hf

/-- A store whose transaction takes place has made a draft and deleted
the records of its location. -/
theorem ending_atomic_ok {after : Scene}
    (h : d.ending true l file scene = (.ok (), after)) :
    ∃ draft p db, d.draft scene l file = .ok draft
      ∧ d.deletion l scene = .ok p
      ∧ p.2.insert d.table.text draft = .ok db
      ∧ after = { scene with database := db } := by
  cases hread : d.draft scene l file with
  | error f =>
      rw [ending_unread hread] at h
      cases h
  | ok draft =>
      rw [ending_atomic hread] at h
      rcases d.replaceAtOnce_cases l draft scene with
        ⟨p, db, hdel, hins, hends⟩ | ⟨f, -, hends⟩
      · rw [hends] at h
        cases h
        exact ⟨draft, p, db, rfl, hdel, hins, rfl⟩
      · rw [hends] at h
        cases h

/-- The two ways to overwrite, over a connection that stays as it is for
the whole store. Where the transaction takes place, two statements end
the same; where they succeed and the deletion was not refused, the
transaction ends the same. Where the deletion is refused, the
transaction fails with its fault and leaves the scene, and two
statements end as the insertion does on the database as it was: if that
takes place, a database whose tables are numbered has gained one
record. -/
theorem overwrites_agree (d : Depot) (l : Location) (file : String)
    (hsteady : scene.later.outage = scene.outage) :
    (∀ after, d.ending true l file scene = (.ok (), after) →
        d.ending false l file scene = (.ok (), after))
      ∧ (∀ after, d.ending false l file scene = (.ok (), after) →
          (∃ p, d.deletion l scene = .ok p) →
            d.ending true l file scene = (.ok (), after))
      ∧ ∀ draft fault, d.draft scene l file = .ok draft →
          scene.outage = none →
          scene.database.deleteAt d.table.text l = .error fault →
            d.ending true l file scene = (.error (.database fault), scene)
              ∧ d.ending false l file scene = d.insertion draft scene
              ∧ ∀ after, d.ending false l file scene = (.ok (), after) →
                  after = { scene with database := after.database }
                    ∧ (scene.database.Numbered →
                      ∃ r : Record, r.toDraft = draft
                        ∧ scene.database.Gained d.table.text r
                            after.database) := by
  refine ⟨?atomic, ?plain, ?refused⟩
  case atomic =>
    intro after h
    obtain ⟨draft, p, db, hread, hdel, hins, rfl⟩ := ending_atomic_ok h
    have hout : scene.later.outage = none :=
      hsteady.trans (Scene.query_ok hdel).1
    have hinsert : d.insert draft { scene with database := p.2 }
        = d.insertion draft { scene with database := p.2 } := insert_eq hout
    rw [ending_plain hread, clear_of_deletion hdel, hinsert]
    unfold insertion
    rw [hins]
  case plain =>
    rintro after h ⟨p, hdel⟩
    cases hread : d.draft scene l file with
    | error f =>
        rw [ending_unread hread] at h
        cases h
    | ok draft =>
        rw [ending_plain hread, clear_of_deletion hdel] at h
        rw [ending_atomic hread, replaceAtOnce_of_deletion hdel]
        rcases d.insert_cases draft { scene with database := p.2 } with
          ⟨db, hins, hends⟩ | ⟨f, -, hends⟩
        · rw [hends] at h
          cases h
          rw [show p.2.insert d.table.text draft = .ok db from hins]
        · rw [hends] at h
          cases h
  case refused =>
    intro draft fault hread hout hfault
    have hdel : d.deletion l scene = .error (.database fault) := by
      unfold deletion
      rw [Scene.query_of_outage hout, hfault]
      rfl
    have hplain : d.ending false l file scene = d.insertion draft scene := by
      rw [ending_plain hread, ← insert_eq (hsteady.trans hout)]
      rcases d.clear_cases l scene with ⟨p, hp, -⟩ | ⟨f, -, hleft⟩
      · rw [hdel] at hp
        cases hp
      · rw [hleft]
    refine ⟨?_, hplain, fun after h => ?_⟩
    · rw [ending_atomic hread, replaceAtOnce_of_refused hout hfault]
    · rw [hplain] at h
      unfold insertion at h
      cases hins : scene.database.insert d.table.text draft with
      | error fault =>
          rw [hins] at h
          cases h
      | ok db =>
          rw [hins] at h
          cases h
          exact ⟨rfl, fun hdb => hdb.gained hins⟩

/-- The small database with a record at one location, where deletions
may be blocked. -/
def takenDatabase (blocked : Bool) : Database where
  tables :=
    [⟨"t", [⟨.ofFile ⟨"b", "n"⟩ [1] "{}" 10, 1⟩], 1, blocked, false⟩]
  indexes := [⟨"idx_t_location", "t"⟩, ⟨"idx_t_gmt_modified", "t"⟩]
  hasCounterBook := true

theorem takenDatabase_made (blocked : Bool) :
    (takenDatabase blocked).Made := by
  have hempty : smallDatabase.Made :=
    .create "t" true .empty rfl
  have htaken : (takenDatabase false).Made :=
    .insert "t" (.ofFile ⟨"b", "n"⟩ [1] "{}" 10) hempty rfl
  have hblocked := htaken.blockDeletes "t" blocked
  rwa [show (takenDatabase false).blockDeletes "t" blocked
    = takenDatabase blocked by cases blocked <;> decide +kernel] at hblocked

/-- A scene with that database and the file of the small store. -/
def takenScene (blocked : Bool) : Scene where
  files := (smallStore 0).files
  database := takenDatabase blocked
  now := 20
  host := "h"

/-- Over a record that can be deleted both ways end the same. Over one
that cannot, the transaction fails and two statements leave it beside
the new one. -/
theorem overwrites_agree_small :
    (∃ after,
        (smallStore 0).depot.ending true ⟨"b", "n"⟩ "f" (takenScene false)
            = (.ok (), after)
          ∧ (smallStore 0).depot.ending false ⟨"b", "n"⟩ "f"
              (takenScene false) = (.ok (), after))
      ∧ (smallStore 0).depot.ending true ⟨"b", "n"⟩ "f" (takenScene true)
        = (.error (.database .deletesBlocked), takenScene true)
      ∧ ∃ after,
        (smallStore 0).depot.ending false ⟨"b", "n"⟩ "f" (takenScene true)
            = (.ok (), after)
          ∧ ∃ r,
            (takenScene true).database.Gained "t" r after.database := by
  have hread : ∀ blocked,
      (smallStore 0).depot.draft (takenScene blocked) ⟨"b", "n"⟩ "f"
        = .ok (draftOf (takenScene blocked) ⟨"b", "n"⟩ "f" [1, 2, 3]) :=
    fun _ => rfl
  obtain ⟨after, hatomic⟩ : ∃ after,
      (smallStore 0).depot.ending true ⟨"b", "n"⟩ "f" (takenScene false)
        = (.ok (), after) := by
    rw [ending_atomic (hread false)]
    exact ⟨_, rfl⟩
  have hnumbered : (takenScene true).database.Numbered :=
    (takenDatabase_made true).numbered
  have hsteady : (takenScene false).later.outage
      = (takenScene false).outage := rfl
  have hagree :=
    (overwrites_agree (smallStore 0).depot ⟨"b", "n"⟩ "f" hsteady).1
  obtain ⟨hrefused, hplain, hgained⟩ :=
    (overwrites_agree (smallStore 0).depot ⟨"b", "n"⟩ "f"
      rfl).2.2 _ .deletesBlocked (hread true) rfl rfl
  obtain ⟨left, hleft⟩ : ∃ left,
      (smallStore 0).depot.ending false ⟨"b", "n"⟩ "f" (takenScene true)
        = (.ok (), left) := by
    rw [hplain]
    exact ⟨_, rfl⟩
  obtain ⟨r, -, hr⟩ := (hgained left hleft).2 hnumbered
  exact ⟨⟨after, hatomic, hagree after hatomic⟩, hrefused, left, hleft, r,
    hr⟩

end Depot

end FileDepot
