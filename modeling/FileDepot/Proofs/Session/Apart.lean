/-
What an operation on one table leaves of the others: all they hold, the
ids they have given out, and that they are there.

A step edits the database in two ways only. It puts a table of the name
it works on in the place of the one that is there, or it creates the
table of that name (`Database.Works`). Both are invisible under every
other name, but for one: the counter book is a table of its own and
comes with the first table that is created, whatever that is called
(`counter_book_comes`).
-/
import FileDepot.Proofs.Session.Objects

namespace FileDepot

variable {db db' : Database} {n name : String}

namespace Database

-- ================================================== edits of one table

/-- A database is what work on the table of a name has made of
another. -/
inductive Works (n : String) (db : Database) : Database → Prop
  | nothing : Works n db db
  | put {mid : Database} (u : Table) (h : Works n db mid)
      (hu : sameName u.name n = true) : Works n db (mid.setTable u)
  | made {mid : Database} (h : Works n db mid) (hfree : mid.Admits n) :
      Works n db (mid.withTable n)

/-- Edits of a table are work on it. -/
theorem Edits.works {P : Draft → Prop} (h : db.Edits n P db') :
    Works n db db' := by
  induction h with
  | nothing => exact .nothing
  | @put mid t u _ ht hname _ ih =>
      refine .put u ih ?_
      rw [hname]
      exact sameName_of_table?_eq ht

-- ==================================================== other tables

/-- The table of a name beside a new one. -/
theorem table?_withTable (db : Database) (n name : String) :
    (db.withTable n).table? name
      = (db.table? name).or
          (if sameName n name then some (newTable n) else none) := by
  unfold table?
  rw [withTable_tables, List.find?_append, List.find?_singleton]
  rfl

/-- Work on a table leaves every table of another name. -/
theorem Works.table?_of_ne (h : Works n db db')
    (hn : sameName n name = false) : db'.table? name = db.table? name := by
  induction h with
  | nothing => rfl
  | put u _ hu ih =>
      rw [table?_setTable, sameName_congr hu, hn, if_neg (by simp), ih]
  | made _ _ ih =>
      rw [table?_withTable, hn, if_neg (by simp), Option.or_none, ih]

/-- Work on a table leaves the tables that hold no records, except that
there may be a counter book afterwards. -/
theorem Works.isOtherTable (h : Works n db db')
    (hbook : sameName counterBook name = false) :
    db'.isOtherTable name = db.isOtherTable name := by
  have hany : ∀ now : Database, now.isOtherTable name
      = now.strangers.any fun s => sameName s name := by
    intro now
    unfold Database.isOtherTable otherTables
    rw [List.any_append]
    split <;> simp [hbook]
  rw [hany, hany]
  congr 1
  induction h with
  | nothing => rfl
  | put _ _ _ ih => exact ih
  | made _ _ ih => rw [withTable_strangers, ih]

/-- Work on a table leaves it to be seen which others there are. -/
theorem Works.hasTable_of_ne (h : Works n db db')
    (hn : sameName n name = false)
    (hbook : sameName counterBook name = false) :
    db'.hasTable name = db.hasTable name := by
  unfold hasTable
  rw [h.table?_of_ne hn, h.isOtherTable hbook]

end Database

namespace Step

/-- A step works on the table of its depot. -/
theorem works (s : Step) (db : Database) :
    Database.Works s.table db (s.after db) := by
  rcases s.after_edits db with hedits | ⟨hfree, hmade⟩
  · exact hedits.works
  · rw [hmade]
    exact .made (s.edits_meets (P := s.Drafts db) db).works hfree

/-- A step leaves every table of another name: what it holds and the
ids it has given out. -/
theorem after_table?_of_ne (s : Step) (db : Database)
    (hn : sameName s.table name = false) :
    (s.after db).table? name = db.table? name :=
  (s.works db).table?_of_ne hn

/-- A step neither brings nor takes away a table of another name, the
counter book excepted. -/
theorem after_hasTable_of_ne (s : Step) (db : Database)
    (hn : sameName s.table name = false)
    (hbook : sameName counterBook name = false) :
    (s.after db).hasTable name = db.hasTable name :=
  (s.works db).hasTable_of_ne hn hbook

/-- The counter book, whose name is an accepted one, comes with the first
table of another name. -/
theorem counter_book_comes :
    let s : Step := { smallStore 0 with request := .provision }
    isTableName counterBook = true
      ∧ sameName s.table counterBook = false
      ∧ Database.hasTable {} counterBook = false
      ∧ (s.after {}).hasTable counterBook = true :=
  ⟨by decide, by decide, rfl, rfl⟩

end Step

end FileDepot
