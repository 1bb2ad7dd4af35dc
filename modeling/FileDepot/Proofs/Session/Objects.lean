/-
The objects of a database in a session: which tables, views and indexes
there are, by name, whatever the tables hold.

Edits put a table back in the place of the one of its name, so a step
leaves the objects as they are (`Alike`) unless it provisions; and then
it adds the objects of one table under a name that was free
(`Step.after_cases`). Nothing a depot is asked for takes an object away.
-/
import FileDepot.Proofs.Session.Effect

namespace FileDepot

variable {db db' : Database} {name : String}

namespace Database

-- ============================================================== alike

/-- Two databases have the same objects: they differ in the case of
table names, in records and in blocks at most. -/
structure Alike (db db' : Database) : Prop where
  tables : db'.tables.map (fun t => Text.lowerAscii t.name)
    = db.tables.map fun t => Text.lowerAscii t.name
  views : db'.views = db.views
  strangers : db'.strangers = db.strangers
  indexes : db'.indexes = db.indexes
  book : db'.hasCounterBook = db.hasCounterBook

theorem Alike.refl (db : Database) : db.Alike db :=
  ⟨rfl, rfl, rfl, rfl, rfl⟩

theorem Alike.trans {db'' : Database} (h : db.Alike db')
    (h' : db'.Alike db'') : db.Alike db'' where
  tables := h'.tables.trans h.tables
  views := h'.views.trans h.views
  strangers := h'.strangers.trans h.strangers
  indexes := h'.indexes.trans h.indexes
  book := h'.book.trans h.book

/-- A search for a table only sees the names. -/
theorem isSome_table? (db : Database) (name : String) :
    (db.table? name).isSome
      = (db.tables.map fun t => Text.lowerAscii t.name).any
          fun n => n == Text.lowerAscii name := by
  rw [Bool.eq_iff_iff]
  simp [table?, sameName]

theorem Alike.isSome_table? (h : db.Alike db') (name : String) :
    (db'.table? name).isSome = (db.table? name).isSome := by
  rw [Database.isSome_table?, h.tables, Database.isSome_table?]

theorem Alike.hasTable (h : db.Alike db') (name : String) :
    db'.hasTable name = db.hasTable name := by
  unfold Database.hasTable isOtherTable otherTables
  rw [h.isSome_table?, h.strangers, h.book]

/-- A table is put in the place of one of its own name. -/
theorem alike_setTable (db : Database) (t : Table) :
    db.Alike (db.setTable t) where
  tables := by
    unfold setTable
    rw [List.map_map]
    refine List.map_congr_left fun u _ => ?_
    rw [Function.comp_apply]
    split
    · next h => exact (sameName_iff.mp h).symm
    · rfl
  views := rfl
  strangers := rfl
  indexes := rfl
  book := rfl

/-- Edits of a table leave the objects. -/
theorem Edits.alike {n : String} {P : Draft → Prop}
    (h : db.Edits n P db') : db.Alike db' := by
  induction h with
  | nothing => exact .refl db
  | put _ _ _ _ ih => exact ih.trans (alike_setTable ..)

/-- A new table takes no table away. -/
theorem hasTable_withTable {other : String} (h : db.hasTable other = true) :
    (db.withTable name).hasTable other = true := by
  unfold withTable
  rw [withIndex_hasTable, withIndex_hasTable]
  unfold hasTable isOtherTable otherTables at *
  simp only [withBareTable, isSome_table?, List.map_append,
    List.any_append, Bool.or_eq_true] at h ⊢
  grind

/-- A new table is there. -/
theorem hasTable_withTable_self (db : Database) (name : String) :
    (db.withTable name).hasTable name = true := by
  unfold withTable
  rw [withIndex_hasTable, withIndex_hasTable]
  unfold hasTable
  rw [table?_withBareTable_isSome, Bool.true_or]

end Database

-- =========================================================== sessions

namespace Step

theorem alike_meets (s : Step) (db : Database) : db.Alike (s.meets db) :=
  (s.edits_meets (P := s.Drafts db) db).alike

/-- A step leaves the objects of a database, or it adds those of the
table it works on. -/
theorem after_cases (s : Step) (db : Database) :
    db.Alike (s.after db)
      ∨ ((s.meets db).Admits s.table
        ∧ s.after db = (s.meets db).withTable s.table) :=
  (s.after_edits db).imp_left Database.Edits.alike

/-- A step takes no table away. -/
theorem hasTable_after (s : Step) (h : db.hasTable name = true) :
    (s.after db).hasTable name = true := by
  rcases s.after_cases db with halike | ⟨-, hafter⟩
  · rw [halike.hasTable]
    exact h
  · rw [hafter]
    refine Database.hasTable_withTable ?_
    rw [(s.alike_meets db).hasTable]
    exact h

end Step

/-- A session takes no table away. -/
theorem hasTable_session (h : db.hasTable name = true) (steps : List Step) :
    (session db steps).hasTable name = true :=
  session_induction (P := fun _ now => now.hasTable name = true) h
    (fun _ _ s hnow => s.hasTable_after hnow) steps

end FileDepot
