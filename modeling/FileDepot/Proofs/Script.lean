/-
The script that creates a table, as a whole, and provisioning by it.

Each of the three statements is inverted once: what it says when it
takes place (`createTable_ok`, `createIndex_ok`). Put together they
leave two ways only. Either the guard let the script pass over a table,
which no provisioning comes to because its check has found that table
before; or the name was free for a table (`Admits`) and the database is
the old one with the new table in it (`withTable`).

# What the guard lets pass

`withTable` does not always add two indexes: an index name that is taken
stays with the index that has it, on whatever table that is. And the
first table with numbered records brings the counter book with it.
-/
import FileDepot.Depot.Provision
import FileDepot.Proofs.Naming

namespace FileDepot.Database

variable {db db' : Database} {name index : String} {guarded : Bool}

-- ======================================================== a new table

/-- A table as the script creates it. -/
def newTable (name : String) : Table := ⟨name, [], 0, false, false⟩

/-- The database with a new table and no index on it yet. -/
def withBareTable (db : Database) (name : String) : Database :=
  { db with tables := db.tables ++ [newTable name], hasCounterBook := true }

/-- The database with one more index, unless one has the name. -/
def withIndex (db : Database) (index name : String) : Database :=
  if db.hasIndex index then db
  else { db with indexes := db.indexes ++ [⟨index, name⟩] }

/-- The database with a new table and its indexes. -/
def withTable (db : Database) (name : String) : Database :=
  ((db.withBareTable name).withIndex (locationIndex name) name).withIndex
    (modifiedIndex name) name

/-- A name that is free for a new table: no word of the statement
language, not even that of the guard, and not for internal use, nothing
has it, and no table or view has the name of an index that goes with
it. -/
structure Admits (db : Database) (name : String) : Prop where
  word : isKeyword name = false
  guard : isGuardWord name = false
  own : isInternal name = false
  table : db.hasTable name = false
  view : db.view? name = none
  index : db.hasIndex name = false
  apart : ∀ i ∈ indexNames name, db.hasTable i = false ∧ db.view? i = none

/-- A new table is found under its name. -/
theorem table?_withBareTable_isSome (db : Database) (name : String) :
    ((db.withBareTable name).table? name).isSome = true := by
  unfold table? withBareTable newTable
  simp [List.find?_append]

/-- A new table does not stand in the way of its own indexes. -/
theorem hasTable_withBareTable (db : Database)
    (h : index ∈ indexNames name) :
    (db.withBareTable name).hasTable index = db.hasTable index := by
  have hname := sameName_indexName h
  have hbook := sameName_counterBook h
  unfold hasTable table? isOtherTable otherTables withBareTable newTable
  cases hb : db.hasCounterBook <;>
    simp [List.find?_append, hname, hbook]

@[simp]
theorem withIndex_tables : (db.withIndex index name).tables = db.tables := by
  unfold withIndex
  split <;> rfl

@[simp]
theorem withIndex_views : (db.withIndex index name).views = db.views := by
  unfold withIndex
  split <;> rfl

@[simp]
theorem withIndex_strangers :
    (db.withIndex index name).strangers = db.strangers := by
  unfold withIndex
  split <;> rfl

@[simp]
theorem withIndex_hasCounterBook :
    (db.withIndex index name).hasCounterBook = db.hasCounterBook := by
  unfold withIndex
  split <;> rfl

@[simp]
theorem withTable_tables :
    (db.withTable name).tables = db.tables ++ [newTable name] := by
  simp [withTable, withBareTable]

@[simp]
theorem withTable_views : (db.withTable name).views = db.views := by
  simp [withTable, withBareTable]

@[simp]
theorem withTable_strangers :
    (db.withTable name).strangers = db.strangers := by
  simp [withTable, withBareTable]

/-- An index is no table. -/
@[simp]
theorem withIndex_hasTable (other : String) :
    (db.withIndex index name).hasTable other = db.hasTable other := by
  simp [hasTable, table?, isOtherTable, otherTables]

/-- An index is no view. -/
@[simp]
theorem withIndex_view? (other : String) :
    (db.withIndex index name).view? other = db.view? other := by
  simp [view?]

theorem mem_indexes_withIndex {i : Index}
    (h : i ∈ (db.withIndex index name).indexes) :
    i ∈ db.indexes ∨ i.name = index := by
  unfold withIndex at h
  split at h
  · exact .inl h
  · rcases List.mem_append.mp h with h | h
    · exact .inl h
    · rw [List.mem_singleton.mp h]
      exact .inr rfl

/-- An index of a database with a new table was there or is one of the
table's. -/
theorem mem_indexes_withTable {i : Index}
    (h : i ∈ (db.withTable name).indexes) :
    i ∈ db.indexes ∨ i.name ∈ indexNames name := by
  rcases mem_indexes_withIndex h with h | h
  · rcases mem_indexes_withIndex h with h | h
    · exact .inl h
    · exact .inr (by simp [indexNames, h])
  · exact .inr (by simp [indexNames, h])

/-- Where no index has the names, both indexes are new. -/
theorem indexes_withTable (h : ∀ i ∈ indexNames name, db.hasIndex i = false) :
    (db.withTable name).indexes
      = db.indexes
        ++ [⟨locationIndex name, name⟩, ⟨modifiedIndex name, name⟩] := by
  have hloc : (db.withBareTable name).hasIndex (locationIndex name) = false :=
    h _ (by simp [indexNames])
  have hmod : db.hasIndex (modifiedIndex name) = false :=
    h _ (by simp [indexNames])
  have hmod' : ((db.withBareTable name).withIndex (locationIndex name)
      name).hasIndex (modifiedIndex name) = false := by
    unfold withIndex hasIndex withBareTable at *
    simp [hloc, hmod]
  unfold withTable
  rw [withIndex, hmod', if_neg (by simp), withIndex, hloc,
    if_neg (by simp)]
  simp [withBareTable]

-- ========================================== statements that take place

/-- The first statement passes over what has the name, or the name was
free and the table is new. -/
theorem createTable_ok (h : db.createTable guarded name = .ok db') :
    (guarded = true ∧ db' = db
        ∧ (db.hasTable name = true ∨ (db.view? name).isSome = true))
      ∨ (isKeyword name = false ∧ isGuardWord name = false
        ∧ isInternal name = false ∧ db.hasTable name = false
        ∧ db.view? name = none ∧ db.hasIndex name = false
        ∧ db' = db.withBareTable name) := by
  unfold createTable at h
  split at h
  · cases h
  next hword =>
  split at h
  · cases h
  split at h
  · cases h
  next hown =>
  split at h
  · next ht =>
    split at h
    · next hg => exact .inl ⟨hg, (Except.ok.inj h).symm, .inl ht⟩
    · cases h
  next ht =>
  split at h
  · next hv =>
    split at h
    · next hg => exact .inl ⟨hg, (Except.ok.inj h).symm, .inr hv⟩
    · cases h
  next hv =>
  split at h
  · cases h
  next hi =>
  split at h
  · cases h
  next hguard =>
  exact .inr ⟨by simpa using hword, by simpa using hguard,
    by simpa using hown, by simpa using ht, by simpa using hv,
    by simpa using hi, (Except.ok.inj h).symm⟩

/-- A further statement takes place where no view has the name and the
name of the index is neither a table's nor a view's. It adds the index,
or passes over one of its name. -/
theorem createIndex_ok (h : db.createIndex guarded index name = .ok db') :
    db.view? name = none ∧ db.hasTable index = false
      ∧ db.view? index = none ∧ db' = db.withIndex index name := by
  unfold createIndex at h
  split at h
  · cases h
  · next hv =>
    split at h
    · cases h
    · next hfree =>
      simp only [Bool.or_eq_true, not_or] at hfree
      refine ⟨by simpa using hv, by simpa using hfree.1,
        by simpa using hfree.2, ?_⟩
      unfold withIndex
      split at h
      · next hi =>
        split at h
        · rw [if_pos hi]
          exact (Except.ok.inj h).symm
        · cases h
      · next hi =>
        split at h
        · rw [if_neg hi]
          exact (Except.ok.inj h).symm
        · cases h

/-- A guarded further statement does take place there. -/
theorem createIndex_guarded (hview : db.view? name = none)
    (htable : (db.table? name).isSome = true)
    (hfree : db.hasTable index = false ∧ db.view? index = none) :
    db.createIndex true index name = .ok (db.withIndex index name) := by
  unfold createIndex withIndex
  cases hi : db.hasIndex index <;>
    simp [hview, htable, hfree.1, hfree.2]

-- ========================================================== the script

/-- A script that takes place, and has not passed over a table, has
created one under a free name. -/
theorem create_ok (h : db.create guarded name = .ok db')
    (hguard : guarded = true → db.hasTable name = false) :
    db.Admits name ∧ db' = db.withTable name := by
  unfold create at h
  cases h₁ : db.createTable guarded name with
  | error fault => rw [h₁] at h; cases h
  | ok db₁ =>
      rw [h₁] at h
      change (db₁.createIndex guarded _ name >>= _) = _ at h
      cases h₂ : db₁.createIndex guarded (locationIndex name) name with
      | error fault => rw [h₂] at h; cases h
      | ok db₂ =>
          rw [h₂] at h
          change db₂.createIndex guarded _ name = _ at h
          obtain ⟨hview₁, hloc, hlocView, rfl⟩ := createIndex_ok h₂
          obtain ⟨-, hmod, hmodView, rfl⟩ := createIndex_ok h
          rw [withIndex_hasTable] at hmod
          rw [withIndex_view?] at hmodView
          rcases createTable_ok h₁ with
            ⟨hg, rfl, ht | hv⟩ | ⟨hword, hguard', hown, ht, hv, hi, rfl⟩
          · rw [hguard hg] at ht
            cases ht
          · rw [hview₁] at hv
            cases hv
          · refine ⟨⟨hword, hguard', hown, ht, hv, hi, ?_⟩, rfl⟩
            intro i hi
            rw [← hasTable_withBareTable db hi]
            simp only [indexNames, List.mem_cons, List.not_mem_nil,
              or_false] at hi
            rcases hi with rfl | rfl
            · exact ⟨hloc, hlocView⟩
            · exact ⟨hmod, hmodView⟩

/-- Under a free name the guarded script does take place. -/
theorem create_guarded (h : db.Admits name) :
    db.create true name = .ok (db.withTable name) := by
  have h₁ : db.createTable true name = .ok (db.withBareTable name) := by
    unfold createTable
    simp [h.word, h.guard, h.own, h.table, h.view, h.index, withBareTable,
      newTable]
  have hview : (db.withBareTable name).view? name = none := h.view
  have hfree : ∀ i ∈ indexNames name,
      (db.withBareTable name).hasTable i = false
        ∧ (db.withBareTable name).view? i = none := by
    intro i hi
    rw [hasTable_withBareTable db hi]
    exact h.apart i hi
  have htable := table?_withBareTable_isSome db name
  unfold create
  rw [h₁]
  change ((db.withBareTable name).createIndex true _ name >>= _) = _
  rw [createIndex_guarded hview htable (hfree _ (by simp [indexNames]))]
  refine createIndex_guarded ?_ ?_ ?_
  · rw [withIndex_view?, hview]
  · unfold table? at htable ⊢
    rw [withIndex_tables]
    exact htable
  · rw [withIndex_hasTable, withIndex_view?]
    exact hfree _ (by simp [indexNames])

-- ============================================================ faults

/-- What a script can fail with. Only one without a guard fails because
something of a name is there already. -/
def scriptFaults (guarded : Bool) (name : String) : List DatabaseFault :=
  [.keyword name, .brokenGuard, .brokenSchema name, .reserved name,
      .indexNamesake name, .viewIndexed, .missingColumn "bucket"]
    ++ (indexNames name).map .tableNamesake
    ++ if guarded then []
      else [.tableExists name, .viewExists name]
        ++ (indexNames name).map .indexExists

theorem createTable_error {fault : DatabaseFault}
    (h : db.createTable guarded name = .error fault) :
    fault ∈ scriptFaults guarded name := by
  unfold createTable at h
  repeat' split at h
  all_goals cases h
  all_goals simp_all [scriptFaults]

theorem createIndex_error {fault : DatabaseFault}
    (hi : index ∈ indexNames name)
    (h : db.createIndex guarded index name = .error fault) :
    fault ∈ scriptFaults guarded name := by
  unfold createIndex at h
  repeat' split at h
  all_goals cases h
  all_goals simp_all [scriptFaults]

theorem create_error {fault : DatabaseFault}
    (h : db.create guarded name = .error fault) :
    fault ∈ scriptFaults guarded name := by
  unfold create at h
  cases h₁ : db.createTable guarded name with
  | error f =>
      rw [h₁] at h
      rw [← Except.error.inj h]
      exact createTable_error h₁
  | ok db₁ =>
      rw [h₁] at h
      change (db₁.createIndex guarded _ name >>= _) = _ at h
      cases h₂ : db₁.createIndex guarded (locationIndex name) name with
      | error f =>
          rw [h₂] at h
          rw [← Except.error.inj h]
          exact createIndex_error (by simp [indexNames]) h₂
      | ok db₂ =>
          rw [h₂] at h
          exact createIndex_error (by simp [indexNames]) h

/-- A guarded script never fails because something is there already. -/
theorem isAlreadyThere_of_guarded {fault : DatabaseFault}
    (h : db.create true name = .error fault) :
    fault.isAlreadyThere = false := by
  have hmem := create_error h
  simp only [scriptFaults, indexNames, List.map_cons, List.map_nil,
    List.mem_append, List.mem_cons, List.not_mem_nil, or_false,
    if_true] at hmem
  rcases hmem with (rfl | rfl | rfl | rfl | rfl | rfl | rfl) | rfl | rfl
    <;> rfl

-- ======================================================== provisioning

/-- A check that finds no table guards the script, or the script needs
no guard. -/
theorem sees_eq_false_of_guarded {dialect : Dialect}
    (hs : dialect.sees db name = false) (hg : dialect.isGuarded = true) :
    db.hasTable name = false := by
  cases dialect with
  | sqlite => exact hs
  | racy => cases hg

/-- Provisioning leaves the database, or it says that it has created a
table and has done so under a free name. -/
theorem provision_cases (dialect : Dialect) (name : String)
    (db : Database) :
    ((db.provision dialect name).1 ≠ .ok .created
        ∧ (db.provision dialect name).2.1 = db)
      ∨ ((db.provision dialect name).1 = .ok .created ∧ db.Admits name
        ∧ (db.provision dialect name).2.1 = db.withTable name) := by
  unfold provision
  split
  · exact .inl ⟨by simp, rfl⟩
  · next hs =>
    split
    · next db' hc =>
      obtain ⟨hadmits, hdb⟩ :=
        create_ok hc (sees_eq_false_of_guarded (by simpa using hs))
      exact .inr ⟨rfl, hadmits, hdb⟩
    · split
      · exact .inl ⟨by simp, rfl⟩
      · exact .inl ⟨by simp, rfl⟩

end FileDepot.Database
