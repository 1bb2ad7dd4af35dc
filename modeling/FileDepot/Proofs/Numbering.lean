/-
Every table of a database that was made by statements is numbered.

A database starts empty and is made by scripts, deletions, insertions
and what other hands do to it: they add records under ids of their own
choice, drop tables, block statements and create objects of other kinds
(`Made`). The ids of a table ascend through all of this, and none gets
above the highest that the table remembers, because an id that is taken
is refused and a higher one becomes the highest (`Made.numbered`).
-/
import FileDepot.Proofs.Chain
import FileDepot.Proofs.Session.Objects

namespace FileDepot

-- ============================================================ tables

namespace Table

variable {t : Table} {r s : Record} {records : List Record}

theorem mem_insertSorted :
    s ∈ insertSorted r records ↔ s = r ∨ s ∈ records := by
  rw [(insertSorted_perm r records).mem_iff, List.mem_cons]

/-- A record under a free id takes its place in ascending order. -/
theorem ascending_insertSorted
    (h : records.Pairwise fun r s => r.id < s.id)
    (hfree : ∀ s ∈ records, s.id ≠ r.id) :
    (insertSorted r records).Pairwise fun r s => r.id < s.id := by
  induction records with
  | nil => exact List.pairwise_singleton ..
  | cons first rest ih =>
      obtain ⟨habove, hrest⟩ := List.pairwise_cons.mp h
      have hfirst := hfree first (List.mem_cons_self ..)
      unfold insertSorted
      by_cases hlt : r.id < first.id
      · rw [if_pos hlt, List.pairwise_cons]
        refine ⟨fun s hs => ?_, h⟩
        rcases List.mem_cons.mp hs with rfl | hs
        · exact hlt
        · have := habove s hs
          omega
      · rw [if_neg hlt, List.pairwise_cons]
        refine ⟨fun s hs => ?_,
          ih hrest fun s hs => hfree s (List.mem_cons_of_mem _ hs)⟩
        rcases mem_insertSorted.mp hs with rfl | hs
        · omega
        · exact habove s hs

/-- A table stays numbered when a record is added under a free id. -/
theorem Numbered.add (h : t.Numbered)
    (hfree : ∀ s ∈ t.records, s.id ≠ r.id) : (t.add r).Numbered where
  ascending := ascending_insertSorted h.ascending hfree
  bounded := by
    intro s hs
    show s.id ≤ max t.highest r.id
    rcases mem_insertSorted.mp hs with rfl | hs
    · omega
    · have := h.bounded s hs
      omega

end Table

-- ========================================================= databases

namespace Database

variable {db db' : Database} {name : String} {t : Table}

/-- Every table is numbered. -/
def Numbered (db : Database) : Prop := ∀ t ∈ db.tables, t.Numbered

namespace Numbered

/-- The table a name stands for is numbered. -/
theorem holds (h : db.Numbered) (ht : db.Holds name t) : t.Numbered :=
  h t (List.mem_of_find?_eq_some (holds_iff.mp ht).2)

theorem setTable (h : db.Numbered) (ht : t.Numbered) :
    (db.setTable t).Numbered := by
  intro u hu
  obtain ⟨v, hv, rfl⟩ := List.mem_map.mp hu
  split
  · exact ht
  · exact h v hv

/-- Whether statements on the table of a name are blocked says nothing
of its records. -/
theorem setBlocked (h : db.Numbered) (ht : db.table? name = some t)
    (deletes inserts : Bool) :
    (db.setTable
      { t with blocksDeletes := deletes, blocksInserts := inserts }).Numbered :=
  h.setTable
    ⟨(h t (List.mem_of_find?_eq_some ht)).ascending,
      (h t (List.mem_of_find?_eq_some ht)).bounded⟩

theorem deleteWhere (h : db.Numbered) {picked : Draft → Bool}
    {p : Nat × Database} (hd : db.deleteWhere name picked = .ok p) :
    p.2.Numbered := by
  obtain ⟨t, ht, hp⟩ := deleteWhere_ok hd
  rw [hp]
  exact h.setTable ((h.holds ht).drop _)

theorem insert (h : db.Numbered) {d : Draft}
    (hi : db.insert name d = .ok db') : db'.Numbered := by
  obtain ⟨t, ht, rfl⟩ := insert_ok hi
  exact h.setTable ((h.holds ht).append d)

/-- A record is added under the next id or under one that is free. -/
theorem addRecord (h : db.Numbered) {id : Option Int} {d : Draft}
    (ha : db.addRecord name id d = .ok db') : db'.Numbered := by
  unfold Database.addRecord at ha
  cases id with
  | none => exact h.insert ha
  | some id =>
      obtain ⟨object, hobject, ha⟩ := bind_ok ha
      cases object with
      | view v => cases ha
      | other => cases ha
      | catalog c => cases ha
      | table t =>
          dsimp only at ha
          split at ha
          · cases ha
          · split at ha
            · cases ha
            · next hfree =>
              cases ha
              refine h.setTable ((h.holds hobject).add fun s hs hid => ?_)
              exact hfree (List.any_eq_true.mpr ⟨s, hs, by simpa using hid⟩)

/-- A script adds an empty table at most. -/
theorem create (h : db.Numbered) {guarded : Bool}
    (hc : db.create guarded name = .ok db') : db'.Numbered := by
  unfold Database.create at hc
  obtain ⟨db₁, h₁, hc⟩ := bind_ok hc
  obtain ⟨db₂, h₂, hc⟩ := bind_ok hc
  obtain ⟨-, -, -, rfl⟩ := createIndex_ok h₂
  obtain ⟨-, -, -, rfl⟩ := createIndex_ok hc
  unfold Numbered
  rw [withIndex_tables, withIndex_tables]
  rcases createTable_ok h₁ with ⟨-, rfl, -⟩ | ⟨-, -, -, -, -, -, rfl⟩
  · exact h
  · intro t ht
    rcases List.mem_append.mp ht with ht | ht
    · exact h t ht
    · rw [List.mem_singleton.mp ht]
      exact .of_nil rfl

end Numbered

/-- A database that statements have made: those of depots, and those of
other hands. -/
inductive Made : Database → Prop
  | empty : Made {}
  | create {db db' : Database} (name : String) (guarded : Bool)
      (h : Made db) (hc : db.create guarded name = .ok db') : Made db'
  | deleteWhere {db : Database} (name : String) (picked : Draft → Bool)
      (p : Nat × Database) (h : Made db)
      (hd : db.deleteWhere name picked = .ok p) : Made p.2
  | insert {db db' : Database} (name : String) (d : Draft) (h : Made db)
      (hi : db.insert name d = .ok db') : Made db'
  | addRecord {db db' : Database} (name : String) (id : Option Int)
      (d : Draft) (h : Made db)
      (ha : db.addRecord name id d = .ok db') : Made db'
  | dropTable {db : Database} (name : String) (h : Made db) :
      Made (db.dropTable name)
  | createView {db : Database} (name : String) (h : Made db) :
      Made (db.createView name)
  | createStranger {db : Database} (name index : String) (h : Made db) :
      Made (db.createStranger name index)
  | blockDeletes {db : Database} (name : String) (on : Bool)
      (h : Made db) : Made (db.blockDeletes name on)
  | blockInserts {db : Database} (name : String) (on : Bool)
      (h : Made db) : Made (db.blockInserts name on)

/-- The tables of a database that statements have made are numbered. -/
theorem Made.numbered (h : db.Made) : db.Numbered := by
  induction h with
  | empty => exact fun t ht => nomatch ht
  | create name guarded _ hc ih => exact ih.create hc
  | deleteWhere name picked p _ hd ih => exact ih.deleteWhere hd
  | insert name d _ hi ih => exact ih.insert hi
  | addRecord name id d _ ha ih => exact ih.addRecord ha
  | dropTable name _ ih => exact fun t ht => ih t (List.mem_filter.mp ht).1
  | createView name _ ih => exact ih
  | createStranger name index _ ih => exact ih
  | blockDeletes name on _ ih =>
      unfold Database.blockDeletes
      split
      · next t ht => exact ih.setBlocked ht on t.blocksInserts
      · exact ih
  | blockInserts name on _ ih =>
      unfold Database.blockInserts
      split
      · next t ht => exact ih.setBlocked ht t.blocksDeletes on
      · exact ih

end Database

end FileDepot
