/-
Provisioning with a check and a guarded script.

It is all or nothing: a table that is there is left alone, a table that
can be created comes as a whole, and a script that fails has done
nothing, whichever of its statements failed (`provision_of_not_admits`).
And it is settled once it has succeeded, because nothing a depot is
asked for takes a table away (`hasTable_session`) and every spelling of
a name finds the same table.

# Indexes of other tables

The script passes over an index name that is taken. A table that is
created beside an index of such a name on another table therefore lacks
that index, and is created all the same (`created_without_index`).
-/
import FileDepot.Proofs.Session.Objects

namespace FileDepot

variable {name : String} {scene : Scene}

-- ================================================ over a connection

namespace Database

variable {db : Database}

/-- A table that is found is left alone. -/
theorem provision_of_hasTable (h : db.hasTable name = true) :
    db.provision .sqlite name = (.ok .existing, db, [.tableFound name]) := by
  unfold provision
  rw [if_pos (show Dialect.sees .sqlite db name = true from h)]

/-- A table is created under a free name. -/
theorem provision_of_admits (h : db.Admits name) :
    db.provision .sqlite name
      = (.ok .created, db.withTable name,
        [.creatingTable name .sqlite, .tableCreated name]) := by
  unfold provision
  rw [if_neg (by simp [Dialect.sees, h.table])]
  simp only [Dialect.isGuarded, create_guarded h]

/-- Under any other name the script fails as a whole. -/
theorem provision_of_not_admits (hnone : db.hasTable name = false)
    (h : ¬db.Admits name) :
    ∃ fault, db.provision .sqlite name
      = (.error (.schema name fault), db, [.creatingTable name .sqlite]) := by
  unfold provision
  rw [if_neg (by simp [Dialect.sees, hnone])]
  cases hc : db.create (Dialect.isGuarded .sqlite) name with
  | ok db' => exact absurd (create_ok hc fun _ => hnone).1 h
  | error fault =>
      refine ⟨fault, ?_⟩
      have hthere := isAlreadyThere_of_guarded hc
      simp [hthere]

end Database

-- ========================================================= in a scene

/-- A name that is not accepted is refused before anything is
reached. -/
theorem provision_refused (h : isTableName name = false)
    (dialect : Dialect) (scene : Scene) :
    provision dialect name scene
      = ⟨.error (.config (.tableName name)), scene, []⟩ := by
  simp [provision, TableName.ofText, TableName.ofText?, h]

/-- Without a connection nothing is reached either. -/
theorem provision_unreached (h : isTableName name = true)
    {outage : Outage} (hout : scene.outage = some outage)
    (dialect : Dialect) :
    provision dialect name scene
      = ⟨.error (.connectivity outage), scene, []⟩ := by
  simp [provision, TableName.ofText, TableName.ofText?, h, hout]

/-- An accepted name is provisioned over the connection. -/
theorem provision_reached (h : isTableName name = true)
    (hout : scene.outage = none) (dialect : Dialect) :
    provision dialect name scene
      = ⟨(scene.database.provision dialect name).1,
        { scene with
          database := (scene.database.provision dialect name).2.1 },
        (scene.database.provision dialect name).2.2⟩ := by
  simp [provision, TableName.ofText, TableName.ofText?, h, hout]

/-- Whether the database is reached does not depend on the dialect. -/
theorem provision_reach (name : String) (scene : Scene) :
    (∃ f, ∀ dialect, provision dialect name scene = ⟨.error f, scene, []⟩)
      ∨ ∀ dialect, provision dialect name scene
        = ⟨(scene.database.provision dialect name).1,
          { scene with
            database := (scene.database.provision dialect name).2.1 },
          (scene.database.provision dialect name).2.2⟩ := by
  cases hname : isTableName name with
  | false => exact .inl ⟨_, fun _ => provision_refused hname ..⟩
  | true =>
      rcases scene.outage.eq_none_or_eq_some with h | ⟨outage, h⟩
      · exact .inr (provision_reached hname h)
      · exact .inl ⟨_, provision_unreached hname h⟩

/-- Only an accepted name over a connection is provisioned. -/
theorem provision_ok {dialect : Dialect} {how : Provision}
    (h : (provision dialect name scene).result = .ok how) :
    isTableName name = true ∧ scene.outage = none := by
  cases hname : isTableName name with
  | false =>
      rw [provision_refused hname] at h
      cases h
  | true =>
      refine ⟨rfl, ?_⟩
      cases hout : scene.outage with
      | none => rfl
      | some outage =>
          rw [provision_unreached hname hout] at h
          cases h

/-- A name that was provisioned has a table. -/
theorem hasTable_of_provision {how : Provision}
    (h : (provision .sqlite name scene).result = .ok how) :
    (provision .sqlite name scene).scene.database.hasTable name = true := by
  obtain ⟨hname, hout⟩ := provision_ok h
  rw [provision_reached hname hout] at h ⊢
  by_cases hthere : scene.database.hasTable name = true
  · rw [Database.provision_of_hasTable hthere]
    exact hthere
  · by_cases hfree : scene.database.Admits name
    · rw [Database.provision_of_admits hfree]
      exact Database.hasTable_withTable_self ..
    · obtain ⟨fault, hfault⟩ :=
        Database.provision_of_not_admits (by simpa using hthere) hfree
      rw [hfault] at h
      cases h

/-- Every spelling of a name finds the same table. -/
theorem Database.hasTable_congr {other : String} (db : Database)
    (hn : sameName other name = true) :
    db.hasTable other = db.hasTable name := by
  unfold hasTable isOtherTable
  rw [table?_congr hn, sameName_iff] at *
  simp [sameName, hn]

/-- Provisioning is all or nothing, and settled once it has succeeded.

A name that is not accepted is refused, without a connection nothing is
reached, and a table that is there is left alone. A name that is free
gets a table: the database is the old one with an empty table, its
counter book, and an index for each of the two index names that no index
had; where none had them, there are two new indexes. With any other name
the script fails and the database is as it was. After a success every
spelling of the name is found, whatever depots do in the meantime. -/
theorem provision_all_or_nothing (name : String) (scene : Scene) :
    (isTableName name = false →
        (provision .sqlite name scene).result
            = .error (.config (.tableName name))
          ∧ (provision .sqlite name scene).scene = scene)
      ∧ (isTableName name = true → ∀ outage, scene.outage = some outage →
          (provision .sqlite name scene).result
              = .error (.connectivity outage)
            ∧ (provision .sqlite name scene).scene = scene)
      ∧ (isTableName name = true → scene.outage = none →
          scene.database.hasTable name = true →
            (provision .sqlite name scene).result = .ok .existing
              ∧ (provision .sqlite name scene).scene = scene)
      ∧ (isTableName name = true → scene.outage = none →
          scene.database.Admits name →
            (provision .sqlite name scene).result = .ok .created
              ∧ (provision .sqlite name scene).scene
                = { scene with database := scene.database.withTable name }
              ∧ (scene.database.withTable name).tables
                = scene.database.tables ++ [⟨name, [], 0, false, false⟩]
              ∧ (scene.database.withTable name).views
                = scene.database.views
              ∧ (scene.database.withTable name).strangers
                = scene.database.strangers
              ∧ ((∀ i ∈ Database.indexNames name,
                    scene.database.hasIndex i = false) →
                  (scene.database.withTable name).indexes
                    = scene.database.indexes
                      ++ [⟨Database.locationIndex name, name⟩,
                        ⟨Database.modifiedIndex name, name⟩]))
      ∧ (isTableName name = true → scene.outage = none →
          scene.database.hasTable name = false →
          ¬scene.database.Admits name →
            ∃ fault,
              (provision .sqlite name scene).result
                  = .error (.schema name fault)
                ∧ (provision .sqlite name scene).scene = scene)
      ∧ ∀ how, (provision .sqlite name scene).result = .ok how →
          ∀ (steps : List Step) (spelling : String) (later : Scene),
            sameName spelling name = true → later.outage = none →
            later.database
                = session (provision .sqlite name scene).scene.database
                  steps →
              (provision .sqlite spelling later).result = .ok .existing
                ∧ (provision .sqlite spelling later).scene = later := by
  refine ⟨?refused, ?unreached, ?found, ?created, ?failed, ?settled⟩
  case refused =>
    intro hname
    rw [provision_refused hname]
    exact ⟨rfl, rfl⟩
  case unreached =>
    intro hname outage hout
    rw [provision_unreached hname hout]
    exact ⟨rfl, rfl⟩
  case found =>
    intro hname hout hthere
    rw [provision_reached hname hout,
      Database.provision_of_hasTable hthere]
    exact ⟨rfl, rfl⟩
  case created =>
    intro hname hout hfree
    rw [provision_reached hname hout, Database.provision_of_admits hfree]
    exact ⟨rfl, rfl, Database.withTable_tables, Database.withTable_views,
      Database.withTable_strangers, Database.indexes_withTable⟩
  case failed =>
    intro hname hout hnone hfree
    obtain ⟨fault, hfault⟩ :=
      Database.provision_of_not_admits hnone hfree
    rw [provision_reached hname hout, hfault]
    exact ⟨fault, rfl, rfl⟩
  case settled =>
    intro how hok steps spelling later hn hout hdb
    have hname : isTableName spelling = true := by
      rw [isTableName_congr hn]
      exact (provision_ok hok).1
    have hthere : later.database.hasTable spelling = true := by
      rw [hdb, Database.hasTable_congr _ hn]
      exact hasTable_session (hasTable_of_provision hok) steps
    rw [provision_reached hname hout,
      Database.provision_of_hasTable hthere]
    exact ⟨rfl, rfl⟩

/-- A script that fails at its second statement has not created a
table. -/
example :
    (Database.createTable true { views := ["idx_t_location"] } "t").isOk
        = true
      ∧ (Database.provision .sqlite "t" { views := ["idx_t_location"] }).1
        = .error (.schema "t" (.tableNamesake "idx_t_location"))
      ∧ (Database.provision .sqlite "t" { views := ["idx_t_location"] }).2.1
        = { views := ["idx_t_location"] } :=
  ⟨rfl, rfl, rfl⟩

/-- Beside an index of another table that has the name of its own, a
table is created without that index; and the counter book is new as
well. -/
theorem created_without_index :
    let scene : Scene :=
      { files := {}, now := 0, host := "h",
        database := Database.createStranger {} "holder" "idx_t_location" }
    (provision .sqlite "t" scene).result = .ok .created
      ∧ (provision .sqlite "t" scene).scene.database.indexes
        = [⟨"idx_t_location", "holder"⟩, ⟨"idx_t_gmt_modified", "t"⟩]
      ∧ scene.database.hasTable "sqlite_sequence" = false
      ∧ (provision .sqlite "t" scene).scene.database.hasTable
          "sqlite_sequence" = true :=
  ⟨rfl, rfl, rfl, rfl⟩

end FileDepot
