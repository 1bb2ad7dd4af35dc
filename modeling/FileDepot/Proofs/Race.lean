/-
Provisioning without a check and without a guard, as a process does that
has lost the race for a table: it finds out from the fault of its script
that the table is there.

# Why the two ways agree

They take the same script where no table has the name, up to the guard,
and the guard only matters for names that are taken. In a database that
depots have made (`Tended`) none is: there are no views, and an index
has the name of an index of a table that is there. Where a table has the
name, the script without a guard stops at it, unless the name is
reserved; and the only reserved name of a table is that of the counter
book (`lost_race_invisible`).

Under the word of the guard itself both scripts fail, each with a text
of its own: one is not read, the other not read again. There the two
ways end in failures of one kind (`provision_of_guardWord`).

# Reading a fault

That something is there already is told by the text of a fault. Only the
causes that count as such say `already exists`, whatever accepted name
stands in the text (`isAlreadyThere_iff_text`), because no other text
has a `y` in front of a blank and an `e`, and a name has no blanks.
-/
import FileDepot.Proofs.Provisioning

namespace FileDepot

namespace Database

variable {db db' : Database} {name : String}

-- =========================================================== tended

/-- A database in which depots have created everything: there are no
views and no tables of another shape, no table has a reserved name, and
every index goes with a table that is there. -/
structure Tended (db : Database) : Prop where
  views : db.views = []
  strangers : db.strangers = []
  named : ∀ n, (db.table? n).isSome = true →
    isKeyword n = false ∧ isGuardWord n = false ∧ isInternal n = false
  owned : ∀ i ∈ db.indexes, ∃ n, (db.table? n).isSome = true
    ∧ i.name ∈ indexNames n

namespace Tended

theorem start : Tended {} where
  views := rfl
  strangers := rfl
  named := by
    intro n hn
    cases hn
  owned := by
    intro i hi
    cases hi

theorem alike (h : db.Tended) (ha : db.Alike db') : db'.Tended where
  views := ha.views.trans h.views
  strangers := ha.strangers.trans h.strangers
  named := by
    intro n hn
    rw [ha.isSome_table?] at hn
    exact h.named n hn
  owned := by
    intro i hi
    rw [ha.indexes] at hi
    obtain ⟨n, hn, hin⟩ := h.owned i hi
    exact ⟨n, (ha.isSome_table? n).trans hn, hin⟩

/-- A new table is found by its spellings, the others as before. -/
theorem isSome_table?_withTable (db : Database) (name n : String) :
    ((db.withTable name).table? n).isSome
      = ((db.table? n).isSome || sameName name n) := by
  rw [isSome_table?, isSome_table?, withTable_tables]
  simp [sameName, newTable]

theorem withTable (h : db.Tended) (hfree : db.Admits name) :
    (db.withTable name).Tended where
  views := withTable_views.trans h.views
  strangers := withTable_strangers.trans h.strangers
  named := by
    intro n hn
    rw [isSome_table?_withTable, Bool.or_eq_true] at hn
    rcases hn with hn | hn
    · exact h.named n hn
    · rw [← isKeyword_congr hn, ← isGuardWord_congr hn,
        ← isInternal_congr hn]
      exact ⟨hfree.word, hfree.guard, hfree.own⟩
  owned := by
    intro i hi
    rcases mem_indexes_withTable hi with hi | hi
    · obtain ⟨n, hn, hin⟩ := h.owned i hi
      refine ⟨n, ?_, hin⟩
      rw [isSome_table?_withTable, hn, Bool.true_or]
    · refine ⟨name, ?_, hi⟩
      rw [isSome_table?_withTable, sameName_self, Bool.or_true]

/-- Depots tend what they find tended. -/
theorem after (h : db.Tended) (s : Step) : (s.after db).Tended := by
  rcases s.after_cases db with halike | ⟨hfree, hafter⟩
  · exact h.alike halike
  · rw [hafter]
    exact (h.alike (s.alike_meets db)).withTable hfree

/-- A session on an empty database leaves a tended one. -/
theorem session (steps : List Step) : (session {} steps).Tended :=
  session_induction (P := fun _ now => now.Tended) start
    (fun _ _ s hnow => hnow.after s) steps

-- ======================================================= free names

/-- Where no table has a name, its indexes are not there either. -/
theorem hasIndex_eq_false (h : db.Tended) (hnone : db.hasTable name = false)
    {index : String} (hi : index ∈ indexNames name) :
    db.hasIndex index = false := by
  rw [Bool.eq_false_iff]
  intro hthere
  obtain ⟨i, hmem, hsame⟩ := List.any_eq_true.mp hthere
  obtain ⟨n, hn, hin⟩ := h.owned i hmem
  have hname : sameName n name = true := by
    simp only [indexNames, List.mem_cons, List.not_mem_nil, or_false]
      at hin hi
    rcases hin with hin | hin <;> rcases hi with rfl | rfl
    all_goals rw [hin] at hsame
    · simpa using hsame
    · simp at hsame
    · simp at hsame
    · simpa using hsame
  rw [table?_congr hname] at hn
  simp [hasTable, hn] at hnone

/-- Where no table has a name, a script does not need its guard, unless
the name is that of the guard. -/
theorem create_unguarded (h : db.Tended) (hnone : db.hasTable name = false)
    (hguard : isGuardWord name = false) :
    db.create false name = db.create true name := by
  have hview : db.view? name = none := by simp [view?, h.views]
  have hfirst : db.createTable false name = db.createTable true name := by
    simp [createTable, hguard, hnone, hview]
  have hindex : ∀ {db : Database} {index : String},
      db.hasIndex index = false →
        db.createIndex false index name = db.createIndex true index name := by
    intro db index hi
    simp [createIndex, hi]
  unfold create
  rw [hfirst]
  cases h₁ : db.createTable true name with
  | error fault => rfl
  | ok db₁ =>
      have hdb₁ : db₁ = db.withBareTable name := by
        rcases createTable_ok h₁ with
          ⟨-, -, ht | hv⟩ | ⟨-, -, -, -, -, -, hdb⟩
        · rw [hnone] at ht
          cases ht
        · rw [hview] at hv
          cases hv
        · exact hdb
      have hloc : db₁.hasIndex (locationIndex name) = false := by
        rw [hdb₁]
        exact h.hasIndex_eq_false hnone (by simp [indexNames])
      have hmod : db₁.hasIndex (modifiedIndex name) = false := by
        rw [hdb₁]
        exact h.hasIndex_eq_false hnone (by simp [indexNames])
      change (db₁.createIndex false _ name >>= _)
        = (db₁.createIndex true _ name >>= _)
      rw [hindex hloc]
      cases h₂ : db₁.createIndex true (locationIndex name) name with
      | error fault => rfl
      | ok db₂ =>
          obtain ⟨-, -, -, rfl⟩ := createIndex_ok h₂
          refine hindex ?_
          unfold withIndex
          rw [hloc, if_neg (by simp)]
          simpa [hasIndex] using hmod

/-- Where no table has a name, the two ways end alike. -/
theorem provision_of_none (h : db.Tended) (hnone : db.hasTable name = false)
    (hguard : isGuardWord name = false) :
    (db.provision .racy name).1 = (db.provision .sqlite name).1
      ∧ (db.provision .racy name).2.1 = (db.provision .sqlite name).2.1 := by
  unfold provision
  rw [if_neg (by simp [Dialect.sees]), if_neg (by simp [Dialect.sees, hnone])]
  simp only [Dialect.isGuarded, h.create_unguarded hnone hguard]
  cases db.create true name with
  | ok db' => exact ⟨rfl, rfl⟩
  | error fault =>
      dsimp only
      split
      · exact ⟨rfl, rfl⟩
      · exact ⟨rfl, rfl⟩

/-- Where a table has a name, a script without a guard stops at it. -/
theorem provision_of_table (h : db.Tended)
    (ht : (db.table? name).isSome = true) :
    (db.provision .racy name).1 = .ok .existing
      ∧ (db.provision .racy name).2.1 = db := by
  obtain ⟨hword, hguard, hown⟩ := h.named name ht
  have hcreate : db.create false name = .error (.tableExists name) := by
    unfold create createTable
    simp [hword, hguard, hown, hasTable, ht, bind, Except.bind]
  unfold provision
  rw [if_neg (by simp [Dialect.sees])]
  simp [Dialect.isGuarded, hcreate, DatabaseFault.isAlreadyThere]

/-- The counter book is the one table that no script creates. -/
theorem provision_of_counterBook (hsame : sameName name counterBook = true) :
    (db.provision .racy name).1 = .error (.schema name (.reserved name))
      ∧ (db.provision .racy name).2.1 = db := by
  have hword : isKeyword name = false := by
    rw [isKeyword_congr hsame]
    rfl
  have hguard : isGuardWord name = false := by
    rw [isGuardWord_congr hsame]
    rfl
  have hown : isInternal name = true := by
    rw [isInternal_congr hsame]
    rfl
  have hcreate : db.create false name = .error (.reserved name) := by
    unfold create createTable
    simp [hword, hguard, hown, bind, Except.bind]
  unfold provision
  rw [if_neg (by simp [Dialect.sees])]
  simp [Dialect.isGuarded, hcreate, DatabaseFault.isAlreadyThere]

/-- A table that is there was created under its name, or it is the
counter book. -/
theorem table_or_counterBook (h : db.Tended)
    (hthere : db.hasTable name = true) :
    (db.table? name).isSome = true ∨ sameName name counterBook = true := by
  unfold hasTable at hthere
  rw [Bool.or_eq_true] at hthere
  refine hthere.imp_right fun hother => ?_
  rw [sameName_comm]
  unfold isOtherTable otherTables at hother
  cases hhas : db.hasCounterBook with
  | false => simp [hhas, h.strangers] at hother
  | true => simpa [hhas, h.strangers] using hother

/-- No table that is there has the word of the guard for a name. -/
theorem isGuardWord_of_hasTable (h : db.Tended)
    (hthere : db.hasTable name = true) : isGuardWord name = false := by
  rcases h.table_or_counterBook hthere with ht | hbook
  · exact (h.named name ht).2.1
  · rw [isGuardWord_congr hbook]
    rfl

/-- Under the word of the guard either script fails and does nothing. -/
theorem provision_of_guardWord (h : db.Tended)
    (hguard : isGuardWord name = true) (dialect : Dialect) :
    ∃ fault, (db.provision dialect name).1 = .error (.schema name fault)
      ∧ (db.provision dialect name).2.1 = db := by
  have hnone : db.hasTable name = false := by
    rw [Bool.eq_false_iff]
    intro hthere
    rw [h.isGuardWord_of_hasTable hthere] at hguard
    cases hguard
  cases dialect with
  | sqlite =>
      obtain ⟨fault, hfault⟩ := provision_of_not_admits hnone fun hfree => by
        rw [hfree.guard] at hguard
        cases hguard
      exact ⟨fault, by rw [hfault], by rw [hfault]⟩
  | racy =>
      have hword : isKeyword name = false := by
        rw [isKeyword_congr (show sameName name "if" = true from hguard)]
        rfl
      have hcreate : db.create false name = .error .brokenGuard := by
        unfold create createTable
        simp [hword, hguard, bind, Except.bind]
      refine ⟨.brokenGuard, ?_⟩
      unfold provision
      rw [if_neg (by simp [Dialect.sees])]
      simp [Dialect.isGuarded, hcreate, DatabaseFault.isAlreadyThere]

/-- The two ways leave the same. Unless the name is that of the counter
book they end alike, or under the word of the guard in failures of one
kind. -/
theorem provision_racy (h : db.Tended) (name : String) :
    (db.provision .racy name).2.1 = (db.provision .sqlite name).2.1
      ∧ (sameName name counterBook = false →
          (db.provision .racy name).1.mapError Failure.kind
            = (db.provision .sqlite name).1.mapError Failure.kind)
      ∧ (sameName name counterBook = false → isGuardWord name = false →
          (db.provision .racy name).1 = (db.provision .sqlite name).1)
      ∧ ((db.provision .racy name).1 = .ok .existing →
          db.hasTable name = true) := by
  cases hthere : db.hasTable name with
  | false =>
      cases hguard : isGuardWord name with
      | true =>
          obtain ⟨fault, hracy, hleft⟩ :=
            h.provision_of_guardWord hguard .racy
          obtain ⟨fault', hsqlite, hleft'⟩ :=
            h.provision_of_guardWord hguard .sqlite
          rw [hracy, hsqlite, hleft, hleft']
          exact ⟨rfl, fun _ => rfl, nofun, nofun⟩
      | false =>
          obtain ⟨hresult, hleft⟩ := h.provision_of_none hthere hguard
          rw [hresult]
          refine ⟨hleft, fun _ => rfl, fun _ _ => rfl, fun hexisting => ?_⟩
          by_cases hfree : db.Admits name
          · rw [provision_of_admits hfree] at hexisting
            cases hexisting
          · obtain ⟨fault, hfault⟩ := provision_of_not_admits hthere hfree
            rw [hfault] at hexisting
            cases hexisting
  | true =>
      rw [provision_of_hasTable hthere]
      rcases h.table_or_counterBook hthere with ht | hbook
      · obtain ⟨hresult, hleft⟩ := h.provision_of_table ht
        rw [hresult]
        exact ⟨hleft, fun _ => rfl, fun _ _ => rfl, fun _ => rfl⟩
      · obtain ⟨-, hleft⟩ : _ ∧ (db.provision .racy name).2.1 = db :=
          provision_of_counterBook hbook
        have hnot : sameName name counterBook ≠ false := by simp [hbook]
        exact ⟨hleft, fun h => absurd h hnot, fun h => absurd h hnot,
          fun _ => rfl⟩

end Tended

end Database

-- ============================================================= texts

namespace DatabaseFault

/-- The middle of `already exists`. -/
private def mark : List Char := ['y', ' ', 'e']

/-- A text without the mark can be skipped, unless the mark lies across
its end. -/
private theorem mark_skip {front back : List Char}
    (hfront : ¬mark <:+: front) (hend : ¬['y', ' '] <:+ front)
    (hseam : front.getLast? ≠ some 'y' ∨ back.head? ≠ some ' ')
    (h : mark <:+: front ++ back) : mark <:+: back := by
  induction front with
  | nil => exact h
  | cons c rest ih =>
      rw [List.cons_append, List.infix_cons_iff] at h
      rcases h with h | h
      · -- the mark starts at `c`, so it ends within or behind the text
        exfalso
        rcases rest with _ | ⟨d, _ | ⟨e, rest⟩⟩
        · cases back with
          | nil => simp [mark] at h
          | cons d back =>
              simp only [mark, List.nil_append, List.cons_prefix_cons] at h
              obtain ⟨rfl, rfl, -⟩ := h
              simp at hseam
        · simp only [mark, List.cons_append, List.cons_prefix_cons] at h
          obtain ⟨rfl, rfl, -⟩ := h
          exact hend (List.suffix_refl _)
        · simp only [mark, List.cons_append, List.cons_prefix_cons] at h
          obtain ⟨rfl, rfl, rfl, -⟩ := h
          exact hfront ⟨[], rest, rfl⟩
      · refine ih ?_ ?_ ?_ h
        · exact fun hin => hfront (List.infix_cons_iff.mpr (.inr hin))
        · exact fun hin => hend (hin.trans (List.suffix_cons ..))
        · refine hseam.imp_left fun hlast => ?_
          cases rest with
          | nil => simp
          | cons d rest => simpa using hlast

/-- A word does not bring the text about, whatever stands around it. -/
private theorem not_text_around {front word back : String}
    (hword : ' ' ∉ word.toList)
    (hfront : ¬mark <:+: front.toList ∧ ¬['y', ' '] <:+ front.toList
      ∧ front.toList.getLast? ≠ some 'y')
    (hback : back.toList.head? ≠ some ' ' ∧ ¬mark <:+: back.toList) :
    ¬"already exists".toList <:+: (front ++ word ++ back).toList := by
  intro h
  have hmark : mark <:+: (front ++ word ++ back).toList :=
    List.IsInfix.trans ⟨"alread".toList, "xists".toList, by simp [mark]⟩ h
  rw [String.toList_append, String.toList_append, List.append_assoc]
    at hmark
  have hbehind := mark_skip hfront.1 hfront.2.1 (.inl hfront.2.2) hmark
  refine hback.2 (mark_skip ?_ ?_ (.inr hback.1) hbehind)
  · exact fun hin => hword (hin.subset (by simp [mark]))
  · exact fun hin => hword (hin.subset (by simp))

private theorem not_text_front {front word : String}
    (hword : ' ' ∉ word.toList)
    (hfront : ¬mark <:+: front.toList ∧ ¬['y', ' '] <:+ front.toList
      ∧ front.toList.getLast? ≠ some 'y') :
    ¬"already exists".toList <:+: (front ++ word).toList := by
  have h : ¬"already exists".toList <:+: (front ++ word ++ "").toList :=
    not_text_around hword hfront ⟨by simp, by simp [mark]⟩
  rwa [String.append_empty] at h

/-- An accepted name is a word. -/
theorem blank_of_isTableName {name : String} (h : isTableName name = true) :
    ' ' ∉ name.toList := by
  unfold isTableName at h
  intro hblank
  split at h
  · next hn => rw [hn] at hblank; cases hblank
  · next c rest hn =>
    simp only [Bool.and_eq_true, List.all_eq_true] at h
    rw [hn, List.mem_cons] at hblank
    rcases hblank with rfl | hblank
    · exact absurd h.1.1 (by decide)
    · exact absurd (h.1.2 _ hblank) (by decide)

/-- The names of indexes are words then. -/
theorem blank_of_indexNames {name i : String}
    (h : isTableName name = true) (hi : i ∈ Database.indexNames name) :
    ' ' ∉ i.toList := by
  have hname := blank_of_isTableName h
  simp only [Database.indexNames, List.mem_cons, List.not_mem_nil,
    or_false] at hi
  rcases hi with rfl | rfl
  · simpa [Database.locationIndex] using hname
  · simpa [Database.modifiedIndex] using hname

/-- The text of a script's fault says `already exists` exactly when
something is there already. -/
theorem isAlreadyThere_iff_text {name : String} {guarded : Bool}
    {fault : DatabaseFault} (hname : isTableName name = true)
    (h : fault ∈ Database.scriptFaults guarded name) :
    fault.isAlreadyThere = true
      ↔ "already exists".toList <:+: fault.message.toList := by
  have hword := blank_of_isTableName hname
  have hyes : ∀ front : String, "already exists".toList
      <:+: (front ++ " already exists").toList := by
    intro front
    rw [String.toList_append]
    exact ((List.suffix_cons ..).trans (List.suffix_append ..)).isInfix
  have hno : ∀ fault : DatabaseFault, fault.isAlreadyThere = false →
      ¬"already exists".toList <:+: fault.message.toList →
        (fault.isAlreadyThere = true
          ↔ "already exists".toList <:+: fault.message.toList) := by
    intro fault hnot htext
    rw [hnot]
    exact ⟨fun h => absurd h (by simp), fun h => absurd h htext⟩
  simp only [Database.scriptFaults, List.mem_append, List.mem_cons,
    List.not_mem_nil, or_false, List.mem_map] at h
  rcases h with
    ((rfl | rfl | rfl | rfl | rfl | rfl | rfl) | ⟨i, hi, rfl⟩) | h
  · exact hno _ rfl (not_text_around hword (by decide +kernel)
      (by decide +kernel))
  · exact hno _ rfl (by decide +kernel)
  · exact hno _ rfl (not_text_around hword (by decide +kernel)
      (by decide +kernel))
  · exact hno _ rfl (not_text_front hword (by decide +kernel))
  · exact hno _ rfl (not_text_front hword (by decide +kernel))
  · exact hno _ rfl (by decide +kernel)
  · exact hno _ rfl (by decide +kernel)
  · have hindex := blank_of_indexNames hname hi
    exact hno _ rfl (not_text_front hindex (by decide +kernel))
  · -- only a script without a guard goes on
    have hthere : fault.isAlreadyThere = true
        ∧ ∃ front, fault.message = front ++ " already exists" := by
      cases guarded with
      | true => cases h
      | false =>
          simp only [if_false, Bool.false_eq_true, List.mem_append,
            List.mem_cons, List.not_mem_nil, or_false, List.mem_map] at h
          rcases h with (rfl | rfl) | ⟨i, -, rfl⟩
          · exact ⟨rfl, _, rfl⟩
          · exact ⟨rfl, _, rfl⟩
          · exact ⟨rfl, _, rfl⟩
    obtain ⟨hthere, front, hmessage⟩ := hthere
    rw [hthere, hmessage]
    exact ⟨fun _ => hyes front, fun _ => rfl⟩

end DatabaseFault

-- ============================================================ the race

/-- A process that says that a table exists has left the database, and
any process adds a new table at most. -/
theorem Database.provision_adds (dialect : Dialect) (name : String)
    (db : Database) :
    ∃ added, (db.provision dialect name).2.1.tables = db.tables ++ added
      ∧ (∀ t ∈ added, t = newTable name)
      ∧ ((db.provision dialect name).1 = .ok .existing →
          (db.provision dialect name).2.1 = db) := by
  rcases provision_cases dialect name db with
    ⟨-, hleft⟩ | ⟨hcreated, -, hleft⟩
  · exact ⟨[], by simp [hleft], by simp, fun _ => hleft⟩
  · refine ⟨[newTable name], by simp [hleft], by simp, fun h => ?_⟩
    rw [hcreated] at h
    cases h

/-- To lose the race for a table shows in nothing.

Provisioning without a check and without a guard leaves the same scene
as provisioning with both, on whatever depots have left. Unless the name
is that of the counter book it ends in the same way: in the same result,
or in a failure of the same kind, and it is the same failure under every
name but the word of the guard. It only says that a table exists when it
does, it leaves the tables that are there with all their records and
counters, and it is right to go by the text of a fault. -/
theorem lost_race_invisible (steps : List Step) (name : String)
    (scene : Scene) (hdb : scene.database = session {} steps) :
    (provision .racy name scene).scene = (provision .sqlite name scene).scene
      ∧ (sameName name counterBook = false →
          (provision .racy name scene).result.mapError Failure.kind
            = (provision .sqlite name scene).result.mapError Failure.kind)
      ∧ (sameName name counterBook = false →
          Database.isGuardWord name = false →
          (provision .racy name scene).result
            = (provision .sqlite name scene).result)
      ∧ ((provision .racy name scene).result = .ok .existing →
          (provision .racy name scene).scene.database.hasTable name = true)
      ∧ (∃ added, (provision .racy name scene).scene.database.tables
            = scene.database.tables ++ added
          ∧ ∀ t ∈ added, t = Database.newTable name)
      ∧ ∀ fault, isTableName name = true →
          scene.database.create false name = .error fault →
            (fault.isAlreadyThere = true
              ↔ "already exists".toList <:+: fault.message.toList) := by
  have htended : scene.database.Tended := by
    rw [hdb]
    exact Database.Tended.session steps
  obtain ⟨hleft, hkind, hresult, hexisting⟩ := htended.provision_racy name
  obtain ⟨added, htables, hadded, hsame⟩ :=
    Database.provision_adds .racy name scene.database
  have htext : ∀ fault, isTableName name = true →
      scene.database.create false name = .error fault →
        (fault.isAlreadyThere = true
          ↔ "already exists".toList <:+: fault.message.toList) :=
    fun fault hname hfault => DatabaseFault.isAlreadyThere_iff_text hname
      (Database.create_error hfault)
  rcases provision_reach name scene with ⟨f, hf⟩ | hreached
  · simp only [hf]
    refine ⟨trivial, fun _ => trivial, fun _ _ => trivial, fun h => ?_,
      ⟨[], by simp⟩, htext⟩
    cases h
  · simp only [hreached]
    refine ⟨by rw [hleft], hkind, hresult, fun h => ?_,
      ⟨added, htables, hadded⟩, htext⟩
    rw [hsame h]
    exact hexisting h

/-- A scene with the empty table `t`. -/
def smallScene : Scene where
  files := {}
  database := smallDatabase
  now := 0
  host := "h"

theorem lost_race_invisible_small :
    smallScene.database
        = session {} [{ smallStore 10 with request := .provision },
            { smallStore 20 with request := .describe ⟨"b", "n"⟩ }]
      ∧ (provision .racy "T" smallScene).result = .ok .existing
      ∧ (provision .racy "T" smallScene).result
        = (provision .sqlite "T" smallScene).result
      ∧ (provision .racy "T" smallScene).scene
        = (provision .sqlite "T" smallScene).scene
      ∧ (provision .racy "if" smallScene).result
        = .error (.schema "if" .brokenGuard)
      ∧ (provision .sqlite "if" smallScene).result
        = .error (.schema "if" (.brokenSchema "if"))
      ∧ (provision .racy "if" smallScene).result.mapError Failure.kind
        = (provision .sqlite "if" smallScene).result.mapError Failure.kind
      := by
  have hdb : smallScene.database
      = session {} [{ smallStore 10 with request := .provision },
          { smallStore 20 with request := .describe ⟨"b", "n"⟩ }] := by
    decide +kernel
  obtain ⟨hscene, -, hresult, -⟩ :=
    lost_race_invisible _ "T" smallScene hdb
  obtain ⟨-, hkind, -⟩ := lost_race_invisible _ "if" smallScene hdb
  exact ⟨hdb, rfl, hresult rfl rfl, hscene, rfl, rfl, hkind rfl⟩

/-- The counter book is the exception: the check sees it, and the script
may not create it. -/
theorem counterBook_not_created :
    smallScene.database
        = session {} [{ smallStore 10 with request := .provision }]
      ∧ (provision .sqlite "sqlite_sequence" smallScene).result
        = .ok .existing
      ∧ (provision .racy "sqlite_sequence" smallScene).result
        = .error
          (.schema "sqlite_sequence" (.reserved "sqlite_sequence")) :=
  ⟨by decide +kernel, rfl, rfl⟩

end FileDepot
