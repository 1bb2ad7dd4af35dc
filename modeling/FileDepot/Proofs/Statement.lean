/-
The statements, each in one equation for the case that its table is
there.

`Holds` says that a name stands for a table in statements. Nothing but
another table in its place can end it, and provisioning keeps it, of
whatever name (`Holds.provision`), so a run on one table needs no fact
about the rest of the database.
-/
import FileDepot.Proofs.Script

namespace FileDepot.Database

variable {db : Database} {name : String} {t : Table}

-- ==================================================== tables by name

/-- A name stands for a table in statements. -/
def Holds (db : Database) (name : String) (t : Table) : Prop :=
  db.object name = .ok (.table t)

/-- A name stands for a table when it is no reserved word and a table
has it. -/
theorem holds_iff :
    db.Holds name t ↔ isKeyword name = false ∧ db.table? name = some t := by
  unfold Holds object
  constructor
  · intro h
    cases hk : isKeyword name with
    | true => simp [hk] at h
    | false =>
        refine ⟨rfl, ?_⟩
        rw [hk, if_neg (by simp)] at h
        cases ht : db.table? name with
        | some u =>
            rw [ht] at h
            injection h with h
            injection h with h
            rw [h]
        | none =>
            rw [ht] at h
            dsimp only at h
            split at h
            · cases h
            · split at h
              · cases h
              · split at h
                · cases h
                · cases h
  · rintro ⟨hk, ht⟩
    rw [hk, ht]
    rfl

/-- The table a name stands for is the only one. -/
theorem Holds.unique {u : Table} (ht : db.Holds name t)
    (hu : db.Holds name u) : t = u := by
  have h := (holds_iff.mp ht).2.symm.trans (holds_iff.mp hu).2
  injection h

/-- The table has the name it is found under. -/
theorem Holds.sameName (h : db.Holds name t) :
    sameName t.name name = true :=
  List.find?_some (p := fun u : Table => FileDepot.sameName u.name name)
    (holds_iff.mp h).2

/-- Names that are the same stand for the same table. -/
theorem table?_congr {other : String}
    (hn : FileDepot.sameName other name = true) :
    db.table? other = db.table? name := by
  unfold table?
  congr 1
  funext u
  rw [sameName_comm, sameName_congr hn, sameName_comm]

/-- Every spelling of a name stands for the same table. -/
theorem Holds.respell {other : String} (h : db.Holds name t)
    (hn : FileDepot.sameName other name = true) : db.Holds other t := by
  rw [holds_iff] at h ⊢
  refine ⟨?_, (table?_congr hn).trans h.2⟩
  rw [← h.1]
  unfold isKeyword
  rw [sameName_iff.mp hn]

-- ================================================ putting a table back

/-- The table of a name after a table was put in the place of the one of
its own name. -/
theorem table?_setTable (db : Database) (u : Table) (name : String) :
    (db.setTable u).table? name
      = if FileDepot.sameName u.name name then
          (db.table? name).map fun _ => u
        else db.table? name := by
  unfold setTable table?
  rw [List.find?_map]
  -- a table keeps its name class when it is replaced, so the search
  -- stops at the same place
  have hsearch :
      ((fun v : Table => FileDepot.sameName v.name name)
        ∘ fun v : Table =>
            if FileDepot.sameName v.name u.name then u else v)
        = fun v : Table => FileDepot.sameName v.name name := by
    funext v
    rw [Function.comp_apply]
    cases h : FileDepot.sameName v.name u.name with
    | true => rw [if_pos rfl, sameName_congr h]
    | false => rw [if_neg (by simp)]
  rw [hsearch]
  cases hf : db.tables.find? fun v => FileDepot.sameName v.name name with
  | none => simp
  | some v =>
      have hv : FileDepot.sameName v.name name = true :=
        List.find?_some (p := fun v : Table =>
          FileDepot.sameName v.name name) hf
      have hvu : FileDepot.sameName v.name u.name
          = FileDepot.sameName u.name name := by
        rw [sameName_congr hv, sameName_comm]
      rw [Option.map_some, Option.map_some, hvu]
      cases FileDepot.sameName u.name name with
      | true => rfl
      | false => rfl

/-- A table put in the place of the one of its name is there. -/
theorem Holds.setTable_self {u : Table} (h : db.Holds name t)
    (hn : u.name = t.name) : (db.setTable u).Holds name u := by
  obtain ⟨hk, ht⟩ := holds_iff.mp h
  refine holds_iff.mpr ⟨hk, ?_⟩
  rw [table?_setTable, hn, h.sameName, if_pos rfl, ht]
  rfl

-- ========================================================= statements

/-- A query reads the table that is there. -/
theorem Holds.queried (h : db.Holds name t) (column : String) :
    db.queried column name = .ok t := by
  unfold Database.queried
  rw [show db.object name = _ from h]
  rfl

/-- The query for a payload finds the newest record. -/
theorem Holds.newest (h : db.Holds name t) (l : Location) :
    db.newest name l = .ok (t.newest? l) := by
  unfold Database.newest
  rw [h.queried]
  rfl

/-- The query for a description finds the newest record. -/
theorem Holds.described (h : db.Holds name t) (l : Location) :
    db.described name l = .ok (t.newest? l) := by
  unfold Database.described
  rw [h.queried]
  rfl

/-- A deletion that takes place finds a table and drops all it picks
from it. -/
theorem deleteWhere_ok {picked : Draft → Bool} {p : Nat × Database}
    (h : db.deleteWhere name picked = .ok p) :
    ∃ t, db.Holds name t
      ∧ p.2 = db.setTable (t.drop fun r => picked r.toDraft) := by
  unfold deleteWhere at h
  cases ho : db.object name with
  | error fault => rw [ho] at h; cases h
  | ok object =>
      rw [ho] at h
      cases object with
      | view v => cases h
      | other => cases h
      | catalog c => cases h
      | table t =>
          refine ⟨t, ho, ?_⟩
          simp only [bind, Except.bind] at h
          split at h
          · cases h
          · rw [← Except.ok.inj h]

/-- A deletion by location clears the location. -/
theorem deleteAt_ok {l : Location} {p : Nat × Database}
    (h : db.deleteAt name l = .ok p) :
    ∃ t, db.Holds name t ∧ p.2 = db.setTable (t.clear l) :=
  deleteWhere_ok h

/-- An insertion that takes place finds a table and adds the draft to it
under the next id. -/
theorem insert_ok {d : Draft} {db' : Database}
    (h : db.insert name d = .ok db') :
    ∃ t, db.Holds name t ∧ db' = db.setTable (t.append d) := by
  unfold insert at h
  cases ho : db.object name with
  | error fault => rw [ho] at h; cases h
  | ok object =>
      rw [ho] at h
      cases object with
      | view v => cases h
      | other => cases h
      | catalog c => cases h
      | table t =>
          refine ⟨t, ho, ?_⟩
          simp only [bind, Except.bind] at h
          split at h
          · cases h
          · split at h
            · cases h
            · exact (Except.ok.inj h).symm

/-- A deletion that takes place drops what it picks from the table it is
about. -/
theorem Holds.deleteWhere {n : String} {picked : Draft → Bool}
    {p : Nat × Database} (h : db.Holds name t)
    (hn : FileDepot.sameName n name = true)
    (hd : db.deleteWhere n picked = .ok p) :
    p.2.Holds name (t.drop fun r => picked r.toDraft) := by
  obtain ⟨u, hu, hp⟩ := deleteWhere_ok hd
  have htu := (h.respell hn).unique hu
  subst htu
  rw [hp]
  exact h.setTable_self rfl

/-- An insertion that takes place adds the draft to the table it is
about. -/
theorem Holds.insert {n : String} {d : Draft} {db' : Database}
    (h : db.Holds name t) (hn : FileDepot.sameName n name = true)
    (hi : db.insert n d = .ok db') : db'.Holds name (t.append d) := by
  obtain ⟨u, hu, hdb⟩ := insert_ok hi
  have htu := (h.respell hn).unique hu
  subst htu
  rw [hdb]
  exact h.setTable_self rfl

-- ======================================================= provisioning

/-- Provisioning leaves the tables alone or adds an empty one; it adds
one when it says so, and then no table had the name. -/
theorem provision_tables (dialect : Dialect) (name : String)
    (db : Database) :
    ((db.provision dialect name).1 ≠ .ok .created
        ∧ (db.provision dialect name).2.1 = db)
      ∨ ((db.provision dialect name).1 = .ok .created
        ∧ isKeyword name = false ∧ db.hasTable name = false
        ∧ (db.provision dialect name).2.1.tables
            = db.tables ++ [newTable name]) := by
  rcases provision_cases dialect name db with h | ⟨hcreated, hfree, hdb⟩
  · exact .inl h
  · exact .inr ⟨hcreated, hfree.word, hfree.table, by rw [hdb]; simp⟩

/-- A table stays when others are added behind it. -/
theorem Holds.of_tables {db' : Database} {more : List Table}
    (h : db.Holds name t) (ht : db'.tables = db.tables ++ more) :
    db'.Holds name t := by
  obtain ⟨hk, hfind⟩ := holds_iff.mp h
  refine holds_iff.mpr ⟨hk, ?_⟩
  unfold table? at hfind ⊢
  rw [ht, List.find?_append, hfind]
  rfl

/-- Provisioning keeps every table that is there. -/
theorem Holds.provision (h : db.Holds name t) (dialect : Dialect)
    (other : String) : (db.provision dialect other).2.1.Holds name t := by
  rcases provision_tables dialect other db with ⟨-, hdb⟩ | ⟨-, -, -, ht⟩
  · rw [hdb]
    exact h
  · exact h.of_tables ht

/-- A name has just been provisioned: some script created its table. -/
def IsNew (db : Database) (name : String) : Prop :=
  ∃ (dialect : Dialect) (before : Database),
    (before.provision dialect name).1 = .ok .created
      ∧ (before.provision dialect name).2.1 = db

/-- A name that has just been provisioned stands for an empty table. -/
theorem IsNew.holds (h : db.IsNew name) : db.Holds name (newTable name) := by
  obtain ⟨dialect, before, hcreated, hdb⟩ := h
  rcases provision_tables dialect name before with
    ⟨hnot, -⟩ | ⟨-, hk, hnone, ht⟩
  · exact absurd hcreated hnot
  · rw [hdb] at ht
    refine holds_iff.mpr ⟨hk, ?_⟩
    have hnone' : before.tables.find? (fun u => FileDepot.sameName u.name name)
        = none := by
      unfold hasTable at hnone
      rw [Bool.or_eq_false_iff] at hnone
      simpa [table?] using hnone.1
    unfold table?
    rw [ht, List.find?_append, hnone', Option.none_or, List.find?_cons_of_pos]
    exact sameName_self name

end FileDepot.Database
