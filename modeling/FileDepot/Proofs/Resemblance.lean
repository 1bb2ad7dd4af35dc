/-
Statements on two databases that resemble each other, under two
spellings of one table name.

The databases may spell their objects differently and may differ in all
that tables hold which are not looked at (`Database.Resembles`). As long
as the table of a statement is looked at, the two runs cannot drift
apart: both succeed with the same answer and leave databases that
resemble each other again, or both fail (`Ends`). The faults are the
same but for the spelling of the name they carry, so with one spelling
they are the same (`Respelt`).

Looking at one table only gives that no other table's records matter;
looking at all of them, that the spelling of a name does not. Both come
from the lemmas here, one to a statement.
-/
import FileDepot.Proofs.Session.Apart

namespace FileDepot

variable {α β γ δ ε ε' : Type}

-- ========================================================== two endings

/-- Two computations end alike: both with values in a relation, or both
with errors in another. -/
inductive Ends (E : ε → ε' → Prop) (R : α → β → Prop) :
    Except ε α → Except ε' β → Prop
  | ok {a : α} {b : β} (h : R a b) : Ends E R (.ok a) (.ok b)
  | error {e : ε} {e' : ε'} (h : E e e') : Ends E R (.error e) (.error e')

namespace Ends

variable {E : ε → ε' → Prop} {R : α → β → Prop} {S : γ → δ → Prop}
  {x : Except ε α} {x' : Except ε' β}

/-- How two computations that end alike end. -/
theorem cases (h : Ends E R x x') :
    (∃ a b, x = .ok a ∧ x' = .ok b ∧ R a b)
      ∨ ∃ e e', x = .error e ∧ x' = .error e' ∧ E e e' := by
  cases h with
  | ok h => exact .inl ⟨_, _, rfl, rfl, h⟩
  | error h => exact .inr ⟨_, _, rfl, rfl, h⟩

theorem bind {f : α → Except ε γ} {f' : β → Except ε' δ}
    (h : Ends E R x x') (hf : ∀ a b, R a b → Ends E S (f a) (f' b)) :
    Ends E S (x >>= f) (x' >>= f') := by
  cases h with
  | ok h => exact hf _ _ h
  | error h => exact .error h

theorem map {f : α → γ} {f' : β → δ} (h : Ends E R x x')
    (hf : ∀ a b, R a b → S (f a) (f' b)) :
    Ends E S (x.map f) (x'.map f') := by
  cases h with
  | ok h => exact .ok (hf _ _ h)
  | error h => exact .error h

/-- The same computation ends like itself. -/
theorem refl {E : ε → ε → Prop} {R : α → α → Prop} (hE : ∀ e, E e e)
    (hR : ∀ a, R a a) (x : Except ε α) : Ends E R x x := by
  cases x with
  | ok a => exact .ok (hR a)
  | error e => exact .error (hE e)

end Ends

/-- Faults of two statements that differ in the spelling of a name. They
tell the same of what is already there, and are the same where the
spelling is. -/
def DatabaseFault.Respelt (n n' : String) (f f' : DatabaseFault) : Prop :=
  f.isAlreadyThere = f'.isAlreadyThere ∧ (n = n' → f = f')

theorem DatabaseFault.Respelt.refl (n n' : String) (f : DatabaseFault) :
    f.Respelt n n' f :=
  ⟨rfl, fun _ => rfl⟩

-- ========================================================= resemblance

/-- A table apart from its name. -/
def Table.unnamed (t : Table) : Table := { t with name := "" }

/-- Tables that are the same apart from their names agree in all that
they hold. -/
theorem Table.unnamed_iff {t t' : Table} :
    t'.unnamed = t.unnamed
      ↔ t'.records = t.records ∧ t'.highest = t.highest
        ∧ t'.blocksDeletes = t.blocksDeletes
        ∧ t'.blocksInserts = t.blocksInserts := by
  simp [unnamed]

namespace Database

/-- What the table of a name holds, if there is one. -/
def content (db : Database) (name : String) : Option Table :=
  (db.table? name).map Table.unnamed

/-- Two databases have the same objects, spelt the same way or not, and
the tables that are looked at hold the same. -/
structure Resembles (looked : String → Prop) (db db' : Database) : Prop where
  tables : db'.tables.map (fun t => Text.lowerAscii t.name)
    = db.tables.map fun t => Text.lowerAscii t.name
  views : db'.views = db.views
  strangers : db'.strangers = db.strangers
  indexes : db'.indexes.map (fun i => Text.lowerAscii i.name)
    = db.indexes.map fun i => Text.lowerAscii i.name
  book : db'.hasCounterBook = db.hasCounterBook
  content : ∀ name, looked name → db'.content name = db.content name

variable {looked : String → Prop} {db db' : Database} {n n' : String}

theorem Resembles.refl (looked : String → Prop) (db : Database) :
    Resembles looked db db :=
  ⟨rfl, rfl, rfl, rfl, rfl, fun _ _ => rfl⟩

/-- Databases with the same objects resemble each other where a table
looked at is the same. -/
theorem Alike.resembles (h : db.Alike db')
    (hcontent : ∀ name, looked name → db'.content name = db.content name) :
    Resembles looked db db' where
  tables := h.tables
  views := h.views
  strangers := h.strangers
  indexes := by rw [h.indexes]
  book := h.book
  content := hcontent

namespace Resembles

theorem isSome_table? (h : Resembles looked db db')
    (hn : sameName n n' = true) :
    (db'.table? n').isSome = (db.table? n).isSome := by
  rw [Database.isSome_table?, h.tables, ← Database.isSome_table?,
    table?_congr (by rw [sameName_comm, hn])]

theorem isOtherTable (h : Resembles looked db db')
    (hn : sameName n n' = true) :
    db'.isOtherTable n' = db.isOtherTable n := by
  unfold Database.isOtherTable otherTables
  rw [h.strangers, h.book]
  congr 1
  funext s
  rw [sameName_comm, ← sameName_congr hn, sameName_comm]

theorem hasTable (h : Resembles looked db db')
    (hn : sameName n n' = true) : db'.hasTable n' = db.hasTable n := by
  unfold Database.hasTable
  rw [h.isSome_table? hn, h.isOtherTable hn]

theorem view? (h : Resembles looked db db') (hn : sameName n n' = true) :
    db'.view? n' = db.view? n := by
  unfold Database.view?
  rw [h.views]
  congr 1
  funext v
  rw [sameName_comm, ← sameName_congr hn, sameName_comm]

theorem hasIndex (h : Resembles looked db db')
    (hn : sameName n n' = true) : db'.hasIndex n' = db.hasIndex n := by
  have hany : ∀ (now : Database) (name : String), now.hasIndex name
      = (now.indexes.map fun i => Text.lowerAscii i.name).any
          fun i => i == Text.lowerAscii name := by
    intro now name
    unfold Database.hasIndex
    rw [List.any_map]
    rfl
  rw [hany, hany, h.indexes, sameName_iff.mp hn]

/-- The table of a name that is looked at holds the same in both. -/
theorem table? (h : Resembles looked db db') (hn : sameName n n' = true)
    (hl : looked n) :
    (db'.table? n').map Table.unnamed = (db.table? n).map Table.unnamed := by
  rw [← table?_congr hn]
  exact h.content n hl

-- ================================================== changes to a table

/-- Putting tables that hold the same in their places keeps the
resemblance. -/
theorem setTable {u u' : Table} (h : Resembles looked db db')
    (hn : sameName u.name u'.name = true) (hu : u'.unnamed = u.unnamed) :
    Resembles looked (db.setTable u) (db'.setTable u') where
  tables := by
    rw [(alike_setTable db' u').tables, (alike_setTable db u).tables,
      h.tables]
  views := h.views
  strangers := h.strangers
  indexes := h.indexes
  book := h.book
  content := by
    intro name hl
    have hsome := h.isSome_table? (sameName_self name)
    have hold := h.content name hl
    unfold Database.content at hold ⊢
    rw [table?_setTable, table?_setTable, ← sameName_congr hn]
    cases sameName u.name name with
    | false => exact hold
    | true =>
        rw [if_pos rfl, if_pos rfl]
        cases ht : db.table? name <;> cases ht' : db'.table? name <;>
          simp_all

/-- Putting the tables of a name back with one and the same change to
what they hold keeps the resemblance. -/
theorem edit (h : Resembles looked db db') (hn : sameName n n' = true)
    (hl : looked n) (change : Table → Table)
    (hname : ∀ t, (change t).name = t.name)
    (hchange : ∀ t t', t'.unnamed = t.unnamed →
      (change t').unnamed = (change t).unnamed) :
    Resembles looked
      (match db.table? n with
        | some t => db.setTable (change t)
        | none => db)
      (match db'.table? n' with
        | some t => db'.setTable (change t)
        | none => db') := by
  have htable := h.table? hn hl
  cases ht : db.table? n with
  | none =>
      cases ht' : db'.table? n' with
      | none => exact h
      | some t' => rw [ht, ht'] at htable; cases htable
  | some t =>
      cases ht' : db'.table? n' with
      | none => rw [ht, ht'] at htable; cases htable
      | some t' =>
          rw [ht, ht'] at htable
          refine h.setTable ?_ (hchange t t' (Option.some.inj htable))
          rw [hname, hname, sameName_congr (sameName_of_table?_eq ht),
            sameName_congr hn, sameName_comm]
          exact sameName_of_table?_eq ht'

theorem blockDeletes (h : Resembles looked db db')
    (hn : sameName n n' = true) (hl : looked n) (on : Bool) :
    Resembles looked (db.blockDeletes n on) (db'.blockDeletes n' on) :=
  h.edit hn hl (fun t => { t with blocksDeletes := on }) (fun _ => rfl)
    fun t t' ht => by simp_all [Table.unnamed]

theorem blockInserts (h : Resembles looked db db')
    (hn : sameName n n' = true) (hl : looked n) (on : Bool) :
    Resembles looked (db.blockInserts n on) (db'.blockInserts n' on) :=
  h.edit hn hl (fun t => { t with blocksInserts := on }) (fun _ => rfl)
    fun t t' ht => by simp_all [Table.unnamed]

/-- A new table keeps the resemblance. -/
theorem withBareTable (h : Resembles looked db db')
    (hn : sameName n n' = true) :
    Resembles looked (db.withBareTable n) (db'.withBareTable n') where
  tables := by
    simp only [Database.withBareTable, List.map_append, h.tables]
    simp [newTable, sameName_iff.mp hn]
  views := h.views
  strangers := h.strangers
  indexes := h.indexes
  book := rfl
  content := by
    intro name hl
    have hold := h.content name hl
    unfold Database.content Database.table? at hold ⊢
    simp only [Database.withBareTable, List.find?_append,
      List.find?_singleton, newTable, ← sameName_congr hn, Option.map_or,
      hold]
    split <;> rfl

/-- A new index keeps the resemblance. -/
theorem addIndex {i i' : String} (h : Resembles looked db db')
    (hi : sameName i i' = true) :
    Resembles looked { db with indexes := db.indexes ++ [⟨i, n⟩] }
      { db' with indexes := db'.indexes ++ [⟨i', n'⟩] } where
  tables := h.tables
  views := h.views
  strangers := h.strangers
  indexes := by simp [h.indexes, sameName_iff.mp hi]
  book := h.book
  content := h.content

end Resembles

-- =========================================================== statements

/-- Two objects that statements cannot tell apart. -/
inductive Object.Like : Object → Object → Prop
  | table {t t' : Table} (hn : sameName t.name t'.name = true)
      (h : t'.unnamed = t.unnamed) : Object.Like (.table t) (.table t')
  | view (v : String) : Object.Like (.view v) (.view v)
  | other : Object.Like .other .other
  | catalog (c : String) : Object.Like (.catalog c) (.catalog c)

namespace Resembles

/-- A name that is looked at stands for the same object in both. -/
theorem object (h : Resembles looked db db') (hn : sameName n n' = true)
    (hl : looked n) :
    Ends (DatabaseFault.Respelt n n') Object.Like (db.object n)
      (db'.object n') := by
  have hcatalog : catalog? n' = catalog? n := by
    unfold catalog?
    rw [sameName_iff.mp hn]
  have htable := h.table? hn hl
  unfold Database.object
  rw [← isKeyword_congr hn, h.view? hn, h.isOtherTable hn, hcatalog]
  cases isKeyword n with
  | true => exact .error ⟨rfl, fun heq => by rw [heq]⟩
  | false =>
      simp only [Bool.false_eq_true, if_false]
      cases ht : db.table? n with
      | some t =>
          cases ht' : db'.table? n' with
          | none => rw [ht, ht'] at htable; cases htable
          | some t' =>
              rw [ht, ht'] at htable
              refine .ok (.table ?_ (Option.some.inj htable))
              rw [sameName_congr (sameName_of_table?_eq ht),
                sameName_congr hn, sameName_comm]
              exact sameName_of_table?_eq ht'
      | none =>
          cases ht' : db'.table? n' with
          | some t' => rw [ht, ht'] at htable; cases htable
          | none =>
              dsimp only
              split
              · exact .ok (.view _)
              · split
                · exact .ok .other
                · split
                  · exact .ok (.catalog _)
                  · exact .error ⟨rfl, fun heq => by rw [heq]⟩

/-- A query reads tables that hold the same. -/
theorem queried (h : Resembles looked db db') (hn : sameName n n' = true)
    (hl : looked n) (column : String) :
    Ends (DatabaseFault.Respelt n n')
      (fun t t' => t'.unnamed = t.unnamed) (db.queried column n)
      (db'.queried column n') := by
  unfold Database.queried
  refine (h.object hn hl).bind fun o o' ho => ?_
  cases ho with
  | table _ ht => exact .ok ht
  | view v => exact .error (.refl ..)
  | other => exact .error (.refl ..)
  | catalog c => exact .error (.refl ..)

theorem newest (h : Resembles looked db db') (hn : sameName n n' = true)
    (hl : looked n) (l : Location) :
    Ends (DatabaseFault.Respelt n n') Eq (db.newest n l)
      (db'.newest n' l) :=
  (h.queried hn hl "id").map fun t t' ht => by
    rw [Table.newest?, Table.newest?, (Table.unnamed_iff.mp ht).1]

theorem described (h : Resembles looked db db') (hn : sameName n n' = true)
    (hl : looked n) (l : Location) :
    Ends (DatabaseFault.Respelt n n') Eq (db.described n l)
      (db'.described n' l) :=
  (h.queried hn hl "bucket").map fun t t' ht => by
    rw [Table.newest?, Table.newest?, (Table.unnamed_iff.mp ht).1]

/-- A deletion hits the same number of records. -/
theorem deleteWhere (h : Resembles looked db db')
    (hn : sameName n n' = true) (hl : looked n) (picked : Draft → Bool) :
    Ends (DatabaseFault.Respelt n n')
      (fun p p' => p.1 = p'.1 ∧ Resembles looked p.2 p'.2)
      (db.deleteWhere n picked) (db'.deleteWhere n' picked) := by
  unfold Database.deleteWhere
  refine (h.object hn hl).bind fun o o' ho => ?_
  cases ho with
  | view v => exact .error (.refl ..)
  | other => exact .error (.refl ..)
  | catalog c => exact .error (.refl ..)
  | table hname ht =>
      next t t' =>
      obtain ⟨hrecords, hhighest, hdeletes, hinserts⟩ :=
        Table.unnamed_iff.mp ht
      dsimp only
      rw [hrecords, hdeletes]
      split
      · exact .error (.refl ..)
      · refine .ok ⟨rfl, h.setTable hname (Table.unnamed_iff.mpr ?_)⟩
        exact ⟨by simp only [Table.drop, hrecords], hhighest, hdeletes,
          hinserts⟩

/-- An insertion gives the record the same id. -/
theorem insert (h : Resembles looked db db') (hn : sameName n n' = true)
    (hl : looked n) (d : Draft) :
    Ends (DatabaseFault.Respelt n n') (Resembles looked) (db.insert n d)
      (db'.insert n' d) := by
  unfold Database.insert
  refine (h.object hn hl).bind fun o o' ho => ?_
  cases ho with
  | view v => exact .error (.refl ..)
  | other => exact .error ⟨rfl, fun heq => by rw [heq]⟩
  | catalog c => exact .error (.refl ..)
  | table hname ht =>
      next t t' =>
      obtain ⟨hrecords, hhighest, hdeletes, hinserts⟩ :=
        Table.unnamed_iff.mp ht
      have hid : t'.nextId = t.nextId := by
        rw [Table.nextId, Table.nextId, hhighest]
      dsimp only
      rw [hhighest, hinserts, hid]
      split
      · exact .error (.refl ..)
      · split
        · exact .error (.refl ..)
        · refine .ok (h.setTable hname (Table.unnamed_iff.mpr ?_))
          exact ⟨by simp only [Table.add, hrecords],
            by simp only [Table.add, hhighest], hdeletes, hinserts⟩

-- ========================================================== the script

theorem createTable (h : Resembles looked db db')
    (hn : sameName n n' = true) (guarded : Bool) :
    Ends (DatabaseFault.Respelt n n') (Resembles looked)
      (db.createTable guarded n) (db'.createTable guarded n') := by
  unfold Database.createTable
  rw [← isKeyword_congr hn, ← isGuardWord_congr hn, ← isInternal_congr hn,
    h.hasTable hn, h.view? hn, h.hasIndex hn]
  have hfault : ∀ f : String → DatabaseFault,
      (f n).isAlreadyThere = (f n').isAlreadyThere →
        DatabaseFault.Respelt n n' (f n) (f n') :=
    fun f hf => ⟨hf, fun heq => by rw [heq]⟩
  split
  · exact .error (hfault .keyword rfl)
  split
  · exact .error (.refl ..)
  split
  · exact .error (hfault .reserved rfl)
  split
  · split
    · exact .ok h
    · exact .error (hfault .tableExists rfl)
  split
  · split
    · exact .ok h
    · exact .error (hfault .viewExists rfl)
  split
  · exact .error (hfault .indexNamesake rfl)
  split
  · exact .error (hfault .brokenSchema rfl)
  · exact .ok (h.withBareTable hn)

theorem createIndex (h : Resembles looked db db')
    (hn : sameName n n' = true) (guarded : Bool) (index : String → String)
    (hi : sameName (index n) (index n') = true) :
    Ends (DatabaseFault.Respelt n n') (Resembles looked)
      (db.createIndex guarded (index n) n)
      (db'.createIndex guarded (index n') n') := by
  unfold Database.createIndex
  rw [h.view? hn, h.hasTable hi, h.view? hi, h.hasIndex hi,
    h.isSome_table? hn]
  split
  · exact .error (.refl ..)
  split
  · exact .error ⟨rfl, fun heq => by rw [heq]⟩
  split
  · split
    · exact .ok h
    · exact .error ⟨rfl, fun heq => by rw [heq]⟩
  split
  · exact .ok (h.addIndex hi)
  · exact .error (.refl ..)

/-- The script creates the same objects. -/
theorem create (h : Resembles looked db db') (hn : sameName n n' = true)
    (guarded : Bool) :
    Ends (DatabaseFault.Respelt n n') (Resembles looked)
      (db.create guarded n) (db'.create guarded n') :=
  (h.createTable hn guarded).bind fun _ _ h₁ =>
    (h₁.createIndex hn guarded locationIndex (by simpa)).bind
      fun _ _ h₂ => h₂.createIndex hn guarded modifiedIndex (by simpa)

end Resembles

end Database

end FileDepot
