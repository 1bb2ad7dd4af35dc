/-
What a store can do to the database, and what a failed one costs.

`Storing` has one rule for each way a store ends: the source is not
read, the transaction takes place or is rolled back, and in two
statements the insertion takes place or not on what the deletion has
left. Everything about stores is read off these five rules
(`storing`); no proof outside this file opens the operation itself.

# The damage of a failure

Only the last rule can leave a database that is not the old one, and
only when the deletion took place and the insertion did not. Then all
records of the location are gone and nothing else is
(`failed_store_spares`): a deletion is refused as a whole or clears the
location, so no third state exists.
-/
import FileDepot.Depot.Store
import FileDepot.Proofs.Statement

namespace FileDepot

-- ========================================================== failures

/-- A failure that lies with a local file. -/
def Failure.isLocal : Failure → Bool
  | .io _ _ | .fileTooLarge _ _ _ => true
  | _ => false

/-- A failure that lies with the database or the way to it. -/
def Failure.isRemote : Failure → Bool
  | .connectivity _ | .database _ => true
  | _ => false

namespace Failure

variable {f : Failure}

/-- The kinds of failures that lie with a local file. -/
theorem isLocal_iff : f.isLocal = true ↔ f.kind ∈ ["Io", "FileTooLarge"] := by
  cases f <;> simp [isLocal, kind]

/-- The kinds of failures that lie with the database. -/
theorem isRemote_iff :
    f.isRemote = true ↔ f.kind ∈ ["Database", "Connectivity"] := by
  cases f <;> simp [isRemote, kind]

/-- A failure does not lie on both sides. -/
theorem isLocal_of_isRemote (h : f.isRemote = true) :
    f.isLocal = false := by
  cases f <;> simp_all [isRemote, isLocal]

end Failure

-- ============================================================ queries

namespace Scene

variable {α : Type} {scene : Scene} {use : Database → Except DatabaseFault α}

/-- A statement that takes place has a connection and is not refused. -/
theorem query_ok {a : α} (h : scene.query use = .ok a) :
    scene.outage = none ∧ use scene.database = .ok a := by
  unfold query reach at h
  cases ho : scene.outage with
  | some outage => rw [ho] at h; cases h
  | none =>
      rw [ho] at h
      refine ⟨rfl, ?_⟩
      dsimp only at h
      cases hu : use scene.database with
      | error fault => rw [hu] at h; cases h
      | ok b =>
          rw [hu] at h
          injection h with h
          rw [h]

/-- Without an outage a statement has its own result. -/
theorem query_of_outage (h : scene.outage = none) :
    scene.query use = (use scene.database).mapError .database := by
  unfold query reach
  rw [h]

/-- A statement that does not take place fails on the side of the
database. -/
theorem query_error {f : Failure} (h : scene.query use = .error f) :
    f.isRemote = true := by
  unfold query reach at h
  cases ho : scene.outage with
  | some outage =>
      rw [ho] at h
      injection h with h
      rw [← h]
      rfl
  | none =>
      rw [ho] at h
      dsimp only at h
      cases hu : use scene.database with
      | ok a => rw [hu] at h; cases h
      | error fault =>
          rw [hu] at h
          injection h with h
          rw [← h]
          rfl

end Scene

-- =========================================================== payloads

/-- A payload that is accepted is the whole content, within the
limit. -/
theorem payload_ok {path : String} {limit : Nat}
    {size : Except FileFault Nat} {content : Except FileFault Bytes}
    {data : Bytes} (h : payload path limit size content = .ok data) :
    content = .ok data ∧ data.length ≤ limit := by
  unfold payload at h
  cases size with
  | error fault => cases h
  | ok size =>
      dsimp only at h
      by_cases hsize : limit < size
      · rw [if_pos hsize] at h
        cases h
      · rw [if_neg hsize] at h
        cases content with
        | error fault => cases h
        | ok content =>
            dsimp only at h
            by_cases hread : limit < (content.take (limit + 1)).length
            · rw [if_pos hread] at h
              cases h
            · -- a part of limit + 1 bytes that is no longer than the
              -- limit is the whole
              have hle : content.length ≤ limit := by
                rw [List.length_take] at hread
                omega
              rw [if_neg hread, List.take_of_length_le (by omega)] at h
              injection h with h
              subst h
              exact ⟨rfl, hle⟩

/-- A payload that is refused fails on the side of the file. -/
theorem payload_error {path : String} {limit : Nat}
    {size : Except FileFault Nat} {content : Except FileFault Bytes}
    {f : Failure} (h : payload path limit size content = .error f) :
    f.isLocal = true := by
  unfold payload at h
  cases size with
  | error fault =>
      injection h with h
      rw [← h]
      rfl
  | ok size =>
      dsimp only at h
      by_cases hsize : limit < size
      · rw [if_pos hsize] at h
        injection h with h
        rw [← h]
        rfl
      · rw [if_neg hsize] at h
        cases content with
        | error fault =>
            injection h with h
            rw [← h]
            rfl
        | ok content =>
            dsimp only at h
            by_cases hread : limit < (content.take (limit + 1)).length
            · rw [if_pos hread] at h
              injection h with h
              rw [← h]
              rfl
            · rw [if_neg hread] at h
              cases h

/-- The path that goes into the metadata of a file: its canonical one
where it has one. -/
def FileTree.originPath (files : FileTree) (file : String) : String :=
  match files.canonical file with
  | .ok path => path
  | .error _ => file

namespace Depot

variable {d : Depot} {l : Location} {file : String} {scene : Scene}

/-- The draft that a store makes of a file with some content. -/
def draftOf (scene : Scene) (l : Location) (file : String) (data : Bytes) :
    Draft :=
  Draft.ofFile l data
    (Provenance.origin scene.host (scene.files.originPath file)).encode
    scene.now

/-- A draft is made of the whole content of a file within the limit. -/
theorem draft_ok {draft : Draft}
    (h : d.draft scene l file = .ok draft) :
    ∃ data, scene.files.read file = .ok data
      ∧ data.length ≤ d.options.maxFileBytes
      ∧ draft = draftOf scene l file data := by
  unfold Depot.draft at h
  cases hp : payload file d.options.maxFileBytes (scene.files.size file)
      (scene.files.read file) with
  | error f => rw [hp] at h; cases h
  | ok data =>
      rw [hp] at h
      obtain ⟨hread, hle⟩ := payload_ok hp
      exact ⟨data, hread, hle, (Except.ok.inj h).symm⟩

/-- A draft that is not made fails on the side of the file. -/
theorem draft_error {f : Failure} (h : d.draft scene l file = .error f) :
    f.isLocal = true := by
  unfold Depot.draft at h
  cases hp : payload file d.options.maxFileBytes (scene.files.size file)
      (scene.files.read file) with
  | ok data => rw [hp] at h; cases h
  | error g =>
      rw [hp] at h
      injection h with h
      rw [← h]
      exact payload_error hp

-- ============================================================== rules

/-- The deletion of a store. -/
def deletion (d : Depot) (l : Location) (scene : Scene) :
    Except Failure (Nat × Database) :=
  scene.query fun db => db.deleteAt d.table.text l

/-- How a store ends, and in which scene. -/
inductive Storing (d : Depot) (l : Location) (file : String)
    (scene : Scene) : Except Failure Unit → Scene → Prop
  | unread (f : Failure) (hread : d.draft scene l file = .error f) :
      Storing d l file scene (.error f) scene
  | replaced (draft : Draft) (p : Nat × Database) (db : Database)
      (hread : d.draft scene l file = .ok draft)
      (hmode : d.options.atomicOverwrite = true)
      (hdel : d.deletion l scene = .ok p)
      (hins : p.2.insert d.table.text draft = .ok db) :
      Storing d l file scene (.ok ()) { scene with database := db }
  | rolledBack (draft : Draft) (f : Failure)
      (hread : d.draft scene l file = .ok draft)
      (hmode : d.options.atomicOverwrite = true)
      (hf : f.isRemote = true) :
      Storing d l file scene (.error f) scene
  | inserted (draft : Draft) (db : Database)
      (hread : d.draft scene l file = .ok draft)
      (hmode : d.options.atomicOverwrite = false)
      (hins : (d.clear l scene).1.database.insert d.table.text draft
        = .ok db) :
      Storing d l file scene (.ok ()) { scene with database := db }
  | notInserted (draft : Draft) (f : Failure)
      (hread : d.draft scene l file = .ok draft)
      (hmode : d.options.atomicOverwrite = false)
      (hf : f.isRemote = true) :
      Storing d l file scene (.error f) (d.clear l scene).1

/-- What a deletion in a statement of its own leaves. -/
theorem clear_cases (d : Depot) (l : Location) (scene : Scene) :
    (∃ p, d.deletion l scene = .ok p
        ∧ (d.clear l scene).1 = { scene with database := p.2 })
      ∨ ∃ f, d.deletion l scene = .error f
        ∧ (d.clear l scene).1 = scene := by
  unfold clear deletion
  cases h : scene.query fun db => db.deleteAt d.table.text l with
  | ok p => exact .inl ⟨p, rfl, rfl⟩
  | error f => exact .inr ⟨f, rfl, rfl⟩

/-- A deletion in a statement of its own changes the database at
most. -/
theorem clear_scene (d : Depot) (l : Location) (scene : Scene) :
    (d.clear l scene).1
      = { scene with database := (d.clear l scene).1.database } := by
  rcases d.clear_cases l scene with ⟨p, -, h⟩ | ⟨f, -, h⟩
  · rw [h]
  · rw [h]

/-- What an insertion in a statement of its own leaves. -/
theorem insert_cases (d : Depot) (draft : Draft) (scene : Scene) :
    (∃ db, scene.database.insert d.table.text draft = .ok db
        ∧ d.insert draft scene = (.ok (), { scene with database := db }))
      ∨ ∃ f, f.isRemote = true ∧ d.insert draft scene = (.error f, scene) := by
  unfold Depot.insert
  cases h : scene.later.query fun db => db.insert d.table.text draft with
  | ok db => exact .inl ⟨db, (Scene.query_ok h).2, rfl⟩
  | error f => exact .inr ⟨f, Scene.query_error h, rfl⟩

/-- What a transaction leaves. -/
theorem replaceAtOnce_cases (d : Depot) (l : Location) (draft : Draft)
    (scene : Scene) :
    (∃ p db, d.deletion l scene = .ok p
        ∧ p.2.insert d.table.text draft = .ok db
        ∧ d.replaceAtOnce l draft scene
            = (.ok (), { scene with database := db }))
      ∨ ∃ f, f.isRemote = true
        ∧ d.replaceAtOnce l draft scene = (.error f, scene) := by
  unfold replaceAtOnce
  generalize h : scene.query _ = attempt
  cases attempt with
  | error f => exact .inr ⟨f, Scene.query_error h, rfl⟩
  | ok db =>
      obtain ⟨ho, hdb⟩ := Scene.query_ok h
      cases hdel : scene.database.deleteAt d.table.text l with
      | error fault => rw [hdel] at hdb; cases hdb
      | ok p =>
          rw [hdel] at hdb
          refine .inl ⟨p, db, ?_, hdb, rfl⟩
          unfold deletion
          rw [Scene.query_of_outage ho, hdel]
          rfl

/-- A store ends by one of the rules. -/
theorem storing (d : Depot) (l : Location) (file : String)
    (scene : Scene) :
    Storing d l file scene (d.store l file scene).result
      (d.store l file scene).scene := by
  unfold store
  cases hread : d.draft scene l file with
  | error f => exact .unread f hread
  | ok draft =>
      unfold replace
      cases hmode : d.options.atomicOverwrite with
      | true =>
          rcases d.replaceAtOnce_cases l draft scene with
            ⟨p, db, hdel, hins, h⟩ | ⟨f, hf, h⟩
          · simp only [h, if_true]
            exact .replaced draft p db hread hmode hdel hins
          · simp only [h, if_true]
            exact .rolledBack draft f hread hmode hf
      | false =>
          rcases d.insert_cases draft (d.clear l scene).1 with
            ⟨db, hins, h⟩ | ⟨f, hf, h⟩
          · simp only [h, Bool.false_eq_true, if_false]
            rw [d.clear_scene l scene]
            exact .inserted draft db hread hmode hins
          · simp only [h, Bool.false_eq_true, if_false]
            exact .notInserted draft f hread hmode hf

end Depot

-- ============================================================ damage

/-- A database is another one without the records of one location in one
table: that table keeps its other records and its highest id, and the
tables of other names are as they were. -/
structure Database.Cleared (before : Database) (name : String)
    (l : Location) (after : Database) : Prop where
  table : ∃ t, before.table? name = some t
    ∧ after = before.setTable
        { t with records := t.records.filter fun r => r.location ≠ l }
  others : ∀ other, sameName other name = false →
    after.table? other = before.table? other

/-- A deletion by location only clears the location. -/
theorem Database.cleared_of_deleteAt {db : Database} {name : String}
    {l : Location} {p : Nat × Database}
    (h : db.deleteAt name l = .ok p) : db.Cleared name l p.2 := by
  obtain ⟨t, ht, hp⟩ := deleteAt_ok h
  refine ⟨⟨t, (holds_iff.mp ht).2, ?_⟩, fun other hother => ?_⟩
  · rw [hp]
    congr 1
    show Table.mk _ (List.filter _ _) _ _ _ = _
    congr 2
    funext r
    show (!(r.location == l)) = _
    rw [decide_not, Bool.beq_eq_decide_eq]
  · have hne : sameName (t.clear l).name other = false := by
      show sameName t.name other = false
      rw [sameName_congr ht.sameName, sameName_comm]
      exact hother
    rw [hp, table?_setTable, hne, if_neg (by simp)]

namespace Depot.Storing

variable {d : Depot} {l : Location} {file : String} {scene after : Scene}
  {result : Except Failure Unit} {f : Failure}

/-- A store leaves the files. -/
theorem files (h : Storing d l file scene result after) :
    after.files = scene.files := by
  cases h with
  | unread f hread => rfl
  | replaced draft p db hread hmode hdel hins => rfl
  | rolledBack draft f hread hmode hf => rfl
  | inserted draft db hread hmode hins => rfl
  | notInserted draft f hread hmode hf => rw [d.clear_scene l scene]

/-- A store fails on the side of the file or of the database. -/
theorem failure (h : Storing d l file scene (.error f) after) :
    f.isLocal = true ∨ f.isRemote = true := by
  cases h with
  | unread f hread => exact .inl (draft_error hread)
  | rolledBack draft f hread hmode hf => exact .inr hf
  | notInserted draft f hread hmode hf => exact .inr hf

/-- A store that fails on the side of the file, or in a transaction,
leaves the database. -/
theorem spared (h : Storing d l file scene (.error f) after)
    (hwhy : f.isLocal = true ∨ d.options.atomicOverwrite = true) :
    after.database = scene.database := by
  cases h with
  | unread f hread => rfl
  | rolledBack draft f hread hmode hf => rfl
  | notInserted draft f hread hmode hf =>
      rcases hwhy with hlocal | hatomic
      · rw [Failure.isLocal_of_isRemote hf] at hlocal
        cases hlocal
      · rw [hmode] at hatomic
        cases hatomic

/-- A store that fails leaves the database or clears its location. -/
theorem damage (h : Storing d l file scene (.error f) after) :
    after.database = scene.database
      ∨ scene.database.Cleared d.table.text l after.database := by
  cases h with
  | unread f hread => exact .inl rfl
  | rolledBack draft f hread hmode hf => exact .inl rfl
  | notInserted draft f hread hmode hf =>
      rcases d.clear_cases l scene with ⟨p, hdel, hp⟩ | ⟨g, -, hg⟩
      · rw [hp]
        exact .inr (Database.cleared_of_deleteAt (Scene.query_ok hdel).2)
      · rw [hg]
        exact .inl rfl

end Depot.Storing

/-- A failed store spares the files. Its failure is one of the file or
of the database; only a failure of the database in two statements can
leave another database, and then the records of the location are gone
from the table of the depot and everything else is as it was. -/
theorem Depot.failed_store_spares (d : Depot) (l : Location)
    (file : String) (scene : Scene) :
    (d.store l file scene).scene.files = scene.files
      ∧ ∀ failure, (d.store l file scene).result = .error failure →
        failure.kind ∈ ["Io", "FileTooLarge", "Database", "Connectivity"]
        ∧ (failure.kind ∈ ["Io", "FileTooLarge"]
              ∨ d.options.atomicOverwrite = true →
            (d.store l file scene).scene.database = scene.database)
        ∧ ((d.store l file scene).scene.database = scene.database
            ∨ scene.database.Cleared d.table.text l
                (d.store l file scene).scene.database) := by
  have hrule := d.storing l file scene
  refine ⟨hrule.files, ?_⟩
  intro failure hfail
  rw [hfail] at hrule
  refine ⟨?_, ?_, hrule.damage⟩
  · have hside := hrule.failure
    rw [Failure.isLocal_iff, Failure.isRemote_iff] at hside
    exact List.mem_append.mpr hside
  · intro hwhy
    rw [← Failure.isLocal_iff] at hwhy
    exact hrule.spared hwhy

/-- A table that takes no more records, with one at each of two
locations. -/
def fullTable : Table where
  name := "full"
  records :=
    [⟨.ofFile ⟨"b", "n"⟩ [1] "{}" 0, 1⟩, ⟨.ofFile ⟨"b", "m"⟩ [2] "{}" 0, 2⟩]
  highest := 2
  blocksInserts := true

/-- A scene with that table and a file. -/
def fullScene : Scene where
  files := { nodes := [(["f"], .file [1, 2, 3])] }
  database := { tables := [fullTable], hasCounterBook := true }
  now := 10
  host := "h"

/-- A depot on that table which stores in two statements. -/
def fullDepot : Depot := ⟨.sqlite, ⟨"full", by decide⟩, ⟨16, 2, false⟩⟩

/-- A store whose insertion is blocked leaves its location cleared, and
the other one as it was. -/
theorem Depot.failed_store_spares_small :
    let after := (fullDepot.store ⟨"b", "n"⟩ "f" fullScene).scene.database
    (fullDepot.store ⟨"b", "n"⟩ "f" fullScene).result
        = .error (.database .insertsBlocked)
      ∧ after ≠ fullScene.database
      ∧ fullScene.database.Cleared "full" ⟨"b", "n"⟩ after
      ∧ (after.table? "full").map (·.records.map (·.data)) = some [[2]] := by
  intro after
  have hfail : (fullDepot.store ⟨"b", "n"⟩ "f" fullScene).result
      = .error (.database .insertsBlocked) := rfl
  have hchanged : after ≠ fullScene.database := by
    decide +kernel
  obtain ⟨-, -, hdamage⟩ :=
    (Depot.failed_store_spares fullDepot ⟨"b", "n"⟩ "f" fullScene).2 _ hfail
  exact ⟨hfail, hchanged, hdamage.resolve_left hchanged, by decide +kernel⟩

end FileDepot
