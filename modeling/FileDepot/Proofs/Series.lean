/-
Provisioning a series of names on a database that is empty at first.

Such a database never holds more than the tables that were created
under way, their indexes and the counter book. It is the database of
those tables (`Database.ofTables`), and a call finds everything it
depends on in their names. `createGuarded_eq` runs the script in a
database without views, `provision_ofTables` turns that into what one
call comes to (`verdict`), and `provisionEach_ofTables` chains the
calls.

# Accepted is not enough

A name is accepted for its letters alone. Four things can still keep its
table from being created: the name is a word of the statement language,
reserved or that of the guard, it is for internal use, an index of an
earlier table has it, or an earlier table has the name of one of its own
indexes (`accepted_not_provisioned`). A series succeeds as a whole exactly when
none of them occurs (`Compatible`).
-/
import FileDepot.Proofs.Provisioning

namespace FileDepot

variable {name : String} {made names : List String}

-- ================================================== names among tables

namespace Database

/-- The database of the tables that were created under the given names,
in the order in which that was done, and of nothing else. -/
def ofTables (made : List String) : Database where
  tables := made.map newTable
  indexes := made.flatMap fun m =>
    [⟨locationIndex m, m⟩, ⟨modifiedIndex m, m⟩]
  hasCounterBook := !made.isEmpty

/-- A table of the name is there among the created ones: one of them, or
the counter book that came with the first. -/
def Stands (made : List String) (name : String) : Bool :=
  made.any (sameName · name) || (!made.isEmpty && sameName counterBook name)

/-- The first name is that of an index of a table of the second. -/
def IsIndexOf (index name : String) : Bool :=
  (indexNames name).any (sameName · index)

/-- An index of a created table has the name. -/
def IndexStands (made : List String) (name : String) : Bool :=
  made.any (IsIndexOf name)

/-- A word of the statement language under which no table is created:
a reserved one, or that of the guard. -/
def IsWord (name : String) : Bool := isKeyword name || isGuardWord name

/-- What keeps a table of a name from being created beside others. -/
def objection (made : List String) (name : String) :
    Option DatabaseFault :=
  if isKeyword name then some (.keyword name)
  else if isInternal name then some (.reserved name)
  else if IndexStands made name then some (.indexNamesake name)
  else if isGuardWord name then some (.brokenSchema name)
  else
    ((indexNames name).find? fun i => made.any (sameName · i)).map
      .tableNamesake

/-- What a call comes to after the given tables were created. -/
def verdict (made : List String) (name : String) :
    Except Failure Provision :=
  if Stands made name then .ok .existing
  else
    match objection made name with
    | none => .ok .created
    | some fault => .error (.schema name fault)

@[simp]
theorem ofTables_nil : ofTables [] = {} := rfl

@[simp]
theorem view?_ofTables : (ofTables made).view? name = none := rfl

theorem hasTable_ofTables :
    (ofTables made).hasTable name = Stands made name := by
  unfold hasTable table? isOtherTable otherTables ofTables Stands
  rw [List.isSome_find?, List.any_map]
  cases made <;> simp [newTable, Function.comp_def]

theorem hasIndex_ofTables :
    (ofTables made).hasIndex name = IndexStands made name := by
  unfold hasIndex ofTables IndexStands IsIndexOf indexNames
  simp [List.any_flatMap]

/-- No table is in the way of an index but one that was created: the
counter book never is. -/
theorem stands_indexName {i : String} (h : i ∈ indexNames name) :
    Stands made i = made.any (sameName · i) := by
  simp [Stands, sameName_counterBook h]

/-- Where a name is not taken, the names of its indexes are not. -/
theorem indexStands_indexName {i : String} (h : i ∈ indexNames name)
    (hnone : Stands made name = false) : IndexStands made i = false := by
  simp only [Stands, Bool.or_eq_false_iff] at hnone
  have hapart := List.any_eq_false.mp hnone.1
  unfold IndexStands
  rw [List.any_eq_false]
  intro m hm
  have hm' := hapart m hm
  simp only [indexNames, List.mem_cons, List.not_mem_nil, or_false] at h
  rcases h with rfl | rfl <;> simpa [IsIndexOf, indexNames] using hm'

/-- A new table beside others, with both its indexes. -/
theorem withTable_ofTables (hnone : Stands made name = false) :
    (ofTables made).withTable name = ofTables (made ++ [name]) := by
  have hindexes : ((ofTables made).withTable name).indexes
      = (ofTables (made ++ [name])).indexes := by
    rw [indexes_withTable fun i hi => by
      rw [hasIndex_ofTables, indexStands_indexName hi hnone]]
    simp [ofTables]
  have hbook : ((ofTables made).withTable name).hasCounterBook = true := by
    simp [withTable, withBareTable]
  rcases hdb : (ofTables made).withTable name with
    ⟨tables, views, strangers, indexes, book⟩
  have htables : ((ofTables made).withTable name).tables = _ :=
    withTable_tables
  have hviews : ((ofTables made).withTable name).views = _ :=
    withTable_views
  have hothers : ((ofTables made).withTable name).strangers = _ :=
    withTable_strangers
  rw [hdb] at htables hviews hothers hindexes hbook
  simp only at htables hviews hothers hindexes hbook
  rw [htables, hviews, hothers, hindexes, hbook]
  simp [ofTables]

-- ============================================================ one call

/-- What the guarded script comes to where there are no views and no
table has the name. -/
theorem createGuarded_eq {db : Database} (hviews : db.views = [])
    (hnone : db.hasTable name = false) :
    db.create true name
      = if isKeyword name then .error (.keyword name)
        else if isInternal name then .error (.reserved name)
        else if db.hasIndex name then .error (.indexNamesake name)
        else if isGuardWord name then .error (.brokenSchema name)
        else
          match (indexNames name).find? db.hasTable with
          | some i => .error (.tableNamesake i)
          | none => .ok (db.withTable name) := by
  have hview : ∀ n, db.view? n = none := by simp [view?, hviews]
  by_cases hword : isKeyword name = true
  · simp [create, createTable, hword, bind, Except.bind]
  by_cases hown : isInternal name = true
  · simp [create, createTable, hword, hown, bind, Except.bind]
  by_cases hindex : db.hasIndex name = true
  · simp [create, createTable, hword, hown, hnone, hview, hindex, bind,
      Except.bind]
  by_cases hguard : isGuardWord name = true
  · simp [create, createTable, hword, hown, hnone, hview, hindex, hguard,
      bind, Except.bind]
  rw [if_neg hword, if_neg hown, if_neg hindex, if_neg hguard]
  have hbare : db.createTable true name = .ok (db.withBareTable name) := by
    simp [createTable, hword, hown, hnone, hview, hindex, hguard,
      withBareTable, newTable]
  have hview' : ∀ n, (db.withBareTable name).view? n = none := hview
  have htable := table?_withBareTable_isSome db name
  have hloc : locationIndex name ∈ indexNames name := by simp [indexNames]
  have hmod : modifiedIndex name ∈ indexNames name := by simp [indexNames]
  unfold create
  rw [hbare]
  change ((db.withBareTable name).createIndex true _ name >>= _) = _
  cases hl : db.hasTable (locationIndex name) with
  | true =>
      have htaken : (db.withBareTable name).hasTable (locationIndex name)
          = true := by
        rw [hasTable_withBareTable db hloc, hl]
      rw [indexNames, List.find?_cons_of_pos hl]
      simp [createIndex, hview', htaken, bind, Except.bind]
  | false =>
      rw [createIndex_guarded (hview' name) htable
        ⟨by rw [hasTable_withBareTable db hloc, hl], hview' _⟩]
      rw [indexNames, List.find?_cons_of_neg (by simp [hl])]
      change ((db.withBareTable name).withIndex _ name).createIndex true _ _
        = _
      cases hm : db.hasTable (modifiedIndex name) with
      | true =>
          rw [List.find?_cons_of_pos hm]
          simp [createIndex, hview', hasTable_withBareTable db hmod, hm]
      | false =>
          rw [List.find?_cons_of_neg (by simp [hm]), List.find?_nil]
          refine createIndex_guarded (by simp [hview']) ?_ ?_
          · unfold table? at htable ⊢
            rw [withIndex_tables]
            exact htable
          · simp [hasTable_withBareTable db hmod, hm, hview']

/-- What keeps a name is the same in the database of the tables as it is
among their names. -/
theorem create_ofTables (hnone : Stands made name = false) :
    (ofTables made).create true name
      = match objection made name with
        | none => .ok (ofTables (made ++ [name]))
        | some fault => .error fault := by
  have hfind : (indexNames name).find? (ofTables made).hasTable
      = (indexNames name).find? fun i => made.any (sameName · i) := by
    have hloc : locationIndex name ∈ indexNames name := by simp [indexNames]
    have hmod : modifiedIndex name ∈ indexNames name := by simp [indexNames]
    simp only [indexNames, List.find?_cons, List.find?_nil,
      hasTable_ofTables, stands_indexName hloc, stands_indexName hmod]
  rw [createGuarded_eq rfl (by rw [hasTable_ofTables, hnone]),
    hasIndex_ofTables, hfind, withTable_ofTables hnone]
  unfold objection
  split
  · rfl
  split
  · rfl
  split
  · rfl
  split
  · rfl
  cases (indexNames name).find? fun i => made.any (sameName · i) <;> rfl

/-- The tables after a call: one more where it has created one. -/
def tablesAfter (made : List String) (name : String) : List String :=
  match verdict made name with
  | .ok .created => made ++ [name]
  | _ => made

/-- One call beside the tables that were created before it. -/
theorem provision_ofTables (made : List String) (name : String) :
    ((ofTables made).provision .sqlite name).1 = verdict made name
      ∧ ((ofTables made).provision .sqlite name).2.1
        = ofTables (tablesAfter made name) := by
  unfold tablesAfter verdict
  cases hstands : Stands made name with
  | true =>
      rw [provision_of_hasTable (by rw [hasTable_ofTables, hstands])]
      exact ⟨rfl, rfl⟩
  | false =>
      have hcreate := create_ofTables hstands
      unfold provision
      rw [if_neg (by simp [Dialect.sees, hasTable_ofTables, hstands])]
      cases hfree : objection made name with
      | none =>
          rw [hfree] at hcreate
          simp [Dialect.isGuarded, hcreate]
      | some fault =>
          rw [hfree] at hcreate
          have hnew := isAlreadyThere_of_guarded hcreate
          simp [Dialect.isGuarded, hcreate, hnew]

end Database

-- ============================================================ a series

/-- What provisioning a series of names comes to: every name with the
result of its call, in order, and the scene the last call leaves. -/
structure Series where
  calls : List (String × Except Failure Provision)
  scene : Scene

/-- Provisions the names one after another. -/
def provisionEach (scene : Scene) : List String → Series
  | [] => ⟨[], scene⟩
  | name :: rest =>
    let call := provision .sqlite name scene
    let later := provisionEach call.scene rest
    ⟨(name, call.result) :: later.calls, later.scene⟩

/-- The names whose calls have created a table. -/
def created (calls : List (String × Except Failure Provision)) :
    List String :=
  calls.filterMap fun call =>
    match call.2 with
    | .ok .created => some call.1
    | _ => none

/-- A scene in which the given tables were created, over a connection. -/
structure Scene.Holding (scene : Scene) (made : List String) : Prop where
  database : scene.database = Database.ofTables made
  connected : scene.outage = none

/-- A call in a series, and what it leaves to the next. -/
theorem Scene.Holding.provision {scene : Scene}
    (h : scene.Holding made) (hname : isTableName name = true) :
    (provision .sqlite name scene).result = Database.verdict made name
      ∧ (FileDepot.provision .sqlite name scene).scene
        = { scene with
            database := Database.ofTables (Database.tablesAfter made name) }
      := by
  obtain ⟨hresult, hdb⟩ := Database.provision_ofTables made name
  rw [provision_reached hname h.connected, h.database]
  exact ⟨hresult, by rw [hdb]⟩

theorem Scene.Holding.after {scene : Scene}
    (h : scene.Holding made) (hname : isTableName name = true) :
    (FileDepot.provision .sqlite name scene).scene.Holding
      (Database.tablesAfter made name) := by
  rw [(h.provision hname).2]
  exact ⟨rfl, h.connected⟩

/-- The tables after a call are those before it and the one it has
created. -/
theorem append_created (made : List String) (name : String)
    (calls : List (String × Except Failure Provision)) :
    Database.tablesAfter made name ++ created calls
      = made ++ created ((name, Database.verdict made name) :: calls) := by
  unfold Database.tablesAfter created
  split
  · next h => simp [h]
  · next h =>
    rw [List.filterMap_cons_none]
    split
    · next hc => exact absurd hc h
    · rfl

/-- Every call of a series comes to what the tables created before it
decide, and the database is that of the created tables. -/
theorem provisionEach_ofTables {scene : Scene} (h : scene.Holding made)
    (hnames : ∀ n ∈ names, isTableName n = true) :
    (provisionEach scene names).calls.map Prod.fst = names
      ∧ (∀ before name result after,
          (provisionEach scene names).calls
              = before ++ (name, result) :: after →
            result = Database.verdict (made ++ created before) name)
      ∧ (provisionEach scene names).scene
        = { scene with
            database := Database.ofTables
              (made ++ created (provisionEach scene names).calls) } := by
  induction names generalizing made scene with
  | nil =>
      refine ⟨rfl, ?_, ?_⟩
      · intro before name result after hcalls
        simp [provisionEach] at hcalls
      · simp [provisionEach, created, ← h.database]
  | cons name rest ih =>
      have hname := hnames name List.mem_cons_self
      obtain ⟨hresult, hscene⟩ := h.provision hname
      obtain ⟨hfst, hcalls, hlast⟩ :=
        ih (h.after hname) fun n hn => hnames n (List.mem_cons_of_mem _ hn)
      refine ⟨?_, ?_, ?_⟩
      · simp [provisionEach, hfst]
      · intro before other result after heq
        cases before with
        | nil =>
            obtain ⟨⟨rfl, rfl⟩, -⟩ : (_ ∧ _) ∧ _ := by
              simpa [provisionEach] using heq
            rw [hresult]
            simp [created]
        | cons call before =>
            obtain ⟨rfl, hrest⟩ := List.cons.inj heq
            rw [hcalls before other result after hrest, append_created,
              hresult]
      · simp only [provisionEach]
        rw [hlast, append_created, hresult, hscene]

-- ================================================== a whole success

namespace Database

/-- No name is that of an index of a table of another. -/
def Apart (names : List String) : Prop :=
  ∀ a ∈ names, ∀ b ∈ names, isInternal b = false → IsIndexOf a b = false

/-- Tables that were created are ordinary ones, and none has the name of
an index of another. -/
structure Sound (made : List String) : Prop where
  word : ∀ m ∈ made, IsWord m = false
  own : ∀ m ∈ made, isInternal m = false
  apart : Apart made

/-- Names that do not get in each other's way, nor in that of tables
created before. No name is a word of the statement language; the only
one for internal use is the counter book's, and that not before there is
a table; and no name is that of an index of a table that is to be
there. -/
structure Compatible (made names : List String) : Prop where
  word : ∀ n ∈ names, IsWord n = false
  own : ∀ n ∈ names, isInternal n = true → sameName counterBook n = true
  first : made = [] → ∀ n ∈ names.head?, isInternal n = false
  apart : Apart (made ++ names)

theorem isWord_congr {a b : String} (h : sameName a b = true) :
    IsWord a = IsWord b := by
  unfold IsWord
  rw [isKeyword_congr h, isGuardWord_congr h]

theorem isIndexOf_congr {a a' b b' : String} (ha : sameName a a' = true)
    (hb : sameName b b' = true) : IsIndexOf a b = IsIndexOf a' b' := by
  have hsame : ∀ c c' : String, sameName c c' = true →
      sameName c a = sameName c' a' := by
    intro c c' hc
    rw [sameName_congr hc, sameName_comm, sameName_congr ha, sameName_comm]
  unfold IsIndexOf indexNames
  simp only [List.any_cons, List.any_nil]
  rw [hsame (locationIndex b) (locationIndex b') (by simpa),
    hsame (modifiedIndex b) (modifiedIndex b') (by simpa)]

theorem isIndexOf_self (name : String) : IsIndexOf name name = false := by
  unfold IsIndexOf
  rw [List.any_eq_false]
  intro i hi
  rw [sameName_comm, sameName_indexName hi]
  simp

theorem isIndexOf_counterBook (name : String) :
    IsIndexOf counterBook name = false := by
  unfold IsIndexOf
  rw [List.any_eq_false]
  intro i hi
  rw [sameName_comm, sameName_counterBook hi]
  simp

/-- Nothing is in the way of an ordinary name unless it and a created
table are such that one has the name of an index of the other. -/
theorem objection_eq_none :
    objection made name = none
      ↔ IsWord name = false ∧ isInternal name = false
        ∧ ∀ m ∈ made, IsIndexOf name m = false ∧ IsIndexOf m name = false
      := by
  have hown : ((indexNames name).find? fun i => made.any (sameName · i))
        = none
      ↔ ∀ m ∈ made, IsIndexOf m name = false := by
    simp only [List.find?_eq_none, List.any_eq_true, not_exists, not_and,
      IsIndexOf, List.any_eq_false]
    exact ⟨fun h m hm i hi => by rw [sameName_comm]; exact h i hi m hm,
      fun h i hi m hm => by rw [sameName_comm]; exact h m hm i hi⟩
  have hothers : IndexStands made name = false
      ↔ ∀ m ∈ made, IsIndexOf name m = false := by
    simp [IndexStands]
  simp only [forall_and, ← hown, ← hothers]
  unfold objection IsWord
  cases isKeyword name <;> cases isInternal name <;>
    cases isGuardWord name <;> cases IndexStands made name <;> simp

theorem stands_iff :
    Stands made name = true
      ↔ (∃ m ∈ made, sameName m name = true)
        ∨ (made ≠ [] ∧ sameName counterBook name = true) := by
  simp [Stands]

/-- A table is still there after more were created. -/
theorem stands_append (hstands : Stands made name = true)
    (more : List String) : Stands (made ++ more) name = true := by
  rcases stands_iff.mp hstands with ⟨m, hm, hsame⟩ | ⟨hmade, hsame⟩
  · exact stands_iff.mpr (.inl ⟨m, by simp [hm], hsame⟩)
  · exact stands_iff.mpr (.inr ⟨by simp [hmade], hsame⟩)

theorem Apart.subset {l l' : List String} (h : Apart l)
    (hsub : ∀ n ∈ l', n ∈ l) : Apart l' :=
  fun a ha b hb => h a (hsub a ha) b (hsub b hb)

/-- One more spelling of a table that is there changes nothing. -/
theorem Apart.cons_of_stands {l : List String} (h : Apart l)
    (hstands : Stands l name = true) : Apart (name :: l) := by
  have hbook : isInternal counterBook = true := by decide
  -- every name of the longer list stands for one of the shorter or for
  -- the counter book
  have hfor : ∀ n ∈ name :: l, (∃ m ∈ l, sameName n m = true)
      ∨ sameName n counterBook = true := by
    intro n hn
    rcases List.mem_cons.mp hn with rfl | hn
    · rcases stands_iff.mp hstands with ⟨m, hm, hsame⟩ | ⟨-, hsame⟩
      · exact .inl ⟨m, hm, by rw [sameName_comm, hsame]⟩
      · exact .inr (by rw [sameName_comm, hsame])
    · exact .inl ⟨n, hn, sameName_self n⟩
  intro a ha b hb hown
  rcases hfor b hb with ⟨b', hb', hsameb⟩ | hsameb
  · rcases hfor a ha with ⟨a', ha', hsamea⟩ | hsamea
    · rw [isIndexOf_congr hsamea hsameb]
      exact h a' ha' b' hb' (by rw [← isInternal_congr hsameb, hown])
    · rw [isIndexOf_congr hsamea hsameb, isIndexOf_counterBook]
  · rw [isInternal_congr hsameb, hbook] at hown
    cases hown

/-- A name that nothing is in the way of can be added. -/
theorem Sound.apart_append (hs : Sound made)
    (hfree : objection made name = none) : Apart (made ++ [name]) := by
  obtain ⟨-, -, hothers⟩ := objection_eq_none.mp hfree
  intro a ha b hb hown
  rcases List.mem_append.mp ha with ha | ha <;>
    rcases List.mem_append.mp hb with hb | hb
  · exact hs.apart a ha b hb hown
  · rw [List.mem_singleton.mp hb]
    exact (hothers a ha).2
  · rw [List.mem_singleton.mp ha]
    exact (hothers b hb).1
  · rw [List.mem_singleton.mp ha, List.mem_singleton.mp hb]
    exact isIndexOf_self name

/-- A call succeeds exactly for a name that is compatible with the
tables that are there. -/
theorem verdict_ok_iff (hs : Sound made) :
    (∃ how, verdict made name = .ok how) ↔ Compatible made [name] := by
  constructor
  · rintro ⟨how, hok⟩
    unfold verdict at hok
    split at hok
    · next hstands =>
      have hapart : Apart (made ++ [name]) :=
        (hs.apart.cons_of_stands hstands).subset (by simp [or_comm])
      rcases stands_iff.mp hstands with ⟨m, hm, hsame⟩ | ⟨hmade, hsame⟩
      · refine ⟨?_, ?_, ?_, hapart⟩
        · simp [← isWord_congr hsame, hs.word m hm]
        · simp [← isInternal_congr hsame, hs.own m hm]
        · simp [← isInternal_congr hsame, hs.own m hm]
      · refine ⟨?_, ?_, fun h => absurd h hmade, hapart⟩
        · have hbook : IsWord counterBook = false := by decide
          simp [← isWord_congr hsame, hbook]
        · simp [hsame]
    · split at hok
      · next hfree =>
        obtain ⟨hword, hown, -⟩ := objection_eq_none.mp hfree
        exact ⟨by simp [hword], by simp [hown], by simp [hown],
          hs.apart_append hfree⟩
      · cases hok
  · intro h
    cases hstands : Stands made name with
    | true => exact ⟨.existing, by simp [verdict, hstands]⟩
    | false =>
        have hown : isInternal name = false := by
          rw [Bool.eq_false_iff]
          intro hint
          have hmade : made ≠ [] := fun hnil => by
            simpa [hint] using h.first hnil name rfl
          have hbook := h.own name List.mem_cons_self hint
          rw [stands_iff.mpr (.inr ⟨hmade, hbook⟩)] at hstands
          cases hstands
        have hfree : objection made name = none := by
          refine objection_eq_none.mpr
            ⟨h.word name List.mem_cons_self, hown, fun m hm => ⟨?_, ?_⟩⟩
          · exact h.apart name (by simp) m (by simp [hm]) (hs.own m hm)
          · exact h.apart m (by simp [hm]) name (by simp) hown
        exact ⟨.created, by simp [verdict, hstands, hfree]⟩

/-- What a call leaves to the next is sound again. -/
theorem Sound.tablesAfter (hs : Sound made) :
    Sound (tablesAfter made name) := by
  unfold Database.tablesAfter
  split
  · next hok =>
    unfold verdict at hok
    split at hok
    · cases hok
    · split at hok
      · next hfree =>
        obtain ⟨hword, hown, -⟩ := objection_eq_none.mp hfree
        refine ⟨?_, ?_, hs.apart_append hfree⟩
        · simpa [or_imp, forall_and] using ⟨hs.word, hword⟩
        · simpa [or_imp, forall_and] using ⟨hs.own, hown⟩
      · cases hok
  · exact hs

/-- A call that finds a table has found one of the created ones, or the
counter book that came with them. -/
theorem stands_of_verdict (h : verdict made name = .ok .existing) :
    Stands made name = true := by
  unfold verdict at h
  split at h
  · next hstands => exact hstands
  · split at h <;> cases h

/-- After a call that succeeded, the rest has to be compatible with the
tables it leaves. -/
theorem compatible_cons {how : Provision}
    (hs : Sound made) (hok : verdict made name = .ok how) :
    Compatible made (name :: names)
      ↔ Compatible (tablesAfter made name) names := by
  have hfit := (verdict_ok_iff hs).mp ⟨_, hok⟩
  have hword := hfit.word name List.mem_cons_self
  have hown := hfit.own name List.mem_cons_self
  have hhead : made = [] → ∀ n ∈ (name :: names).head?,
      isInternal n = false := fun hnil n hn => by
    rw [List.head?_cons, Option.mem_some_iff] at hn
    rw [← hn]
    exact hfit.first hnil name rfl
  cases how with
  | existing =>
      have hstands := stands_of_verdict hok
      have hmade : made ≠ [] := by
        rintro rfl
        simp [Stands] at hstands
      rw [show tablesAfter made name = made by simp [tablesAfter, hok]]
      constructor
      · intro h
        exact ⟨fun n hn => h.word n (List.mem_cons_of_mem _ hn),
          fun n hn => h.own n (List.mem_cons_of_mem _ hn),
          fun hnil => absurd hnil hmade,
          h.apart.subset (by simp +contextual [or_imp])⟩
      · intro h
        refine ⟨List.forall_mem_cons.mpr ⟨hword, h.word⟩,
          List.forall_mem_cons.mpr ⟨hown, h.own⟩, hhead,
          (h.apart.cons_of_stands (stands_append hstands names)).subset ?_⟩
        intro n hn
        simp only [List.mem_append, List.mem_cons] at hn ⊢
        exact or_left_comm.mp hn
  | created =>
      rw [show tablesAfter made name = made ++ [name] by
        simp [tablesAfter, hok]]
      constructor
      · intro h
        exact ⟨fun n hn => h.word n (List.mem_cons_of_mem _ hn),
          fun n hn => h.own n (List.mem_cons_of_mem _ hn),
          fun hnil => absurd hnil (by simp), by simpa using h.apart⟩
      · intro h
        exact ⟨List.forall_mem_cons.mpr ⟨hword, h.word⟩,
          List.forall_mem_cons.mpr ⟨hown, h.own⟩, hhead,
          by simpa using h.apart⟩

end Database

/-- A series succeeds as a whole exactly when its names are compatible
with the tables that are there and with each other. -/
theorem provisionEach_ok_iff {scene : Scene} (h : scene.Holding made)
    (hs : Database.Sound made)
    (hnames : ∀ n ∈ names, isTableName n = true) :
    (∀ call ∈ (provisionEach scene names).calls,
        ∃ how, call.2 = .ok how)
      ↔ Database.Compatible made names := by
  induction names generalizing made scene with
  | nil =>
      simp only [provisionEach, List.not_mem_nil, false_implies,
        implies_true, true_iff]
      exact ⟨by simp, by simp, by simp, by simpa using hs.apart⟩
  | cons name rest ih =>
      have hname := hnames name List.mem_cons_self
      have ih := ih (h.after hname) hs.tablesAfter fun n hn =>
        hnames n (List.mem_cons_of_mem _ hn)
      simp only [provisionEach, List.forall_mem_cons, ih,
        (h.provision hname).1]
      constructor
      · rintro ⟨⟨how, hok⟩, hrest⟩
        exact (Database.compatible_cons hs hok).mpr hrest
      · intro hall
        have hfit : Database.Compatible made [name] :=
          ⟨by simp [hall.word name], by simpa using hall.own name (by simp),
            fun hnil => by simpa using hall.first hnil,
            hall.apart.subset (by simp +contextual [or_imp])⟩
        obtain ⟨how, hok⟩ := (Database.verdict_ok_iff hs).mpr hfit
        exact ⟨⟨how, hok⟩, (Database.compatible_cons hs hok).mp hall⟩

/-- A call that succeeded leaves its table to be found, whatever was
provisioned after it. -/
theorem stands_of_calls {scene : Scene} (h : scene.Holding made)
    (hnames : ∀ n ∈ names, isTableName n = true) {how : Provision}
    (hcall : (name, .ok how) ∈ (provisionEach scene names).calls) :
    Database.Stands (made ++ created (provisionEach scene names).calls) name
      = true := by
  obtain ⟨before, after, hcalls⟩ := List.append_of_mem hcall
  have hverdict :=
    (provisionEach_ofTables h hnames).2.1 before name _ after hcalls
  rw [hcalls, created, List.filterMap_append, ← List.append_assoc]
  cases how with
  | existing =>
      exact Database.stands_append
        (Database.stands_of_verdict hverdict.symm) _
  | created => exact Database.stands_iff.mpr (.inl ⟨name, by simp, by simp⟩)

/-- What provisioning accepted names one after another comes to, on a
database that is empty at first.

Each call comes to what the tables created before it decide: it finds a
table of its name, or creates one, or its script fails on the first
thing in the way. A failed call leaves no trace: in the end the database
holds the created tables with their indexes and nothing else. All calls
succeed exactly when the names are compatible, and the name of every
call that succeeded is found in the end. -/
theorem accepted_provisioned_iff (names : List String)
    (hnames : ∀ n ∈ names, isTableName n = true) (scene : Scene)
    (hempty : scene.database = {}) (hout : scene.outage = none) :
    (provisionEach scene names).calls.map Prod.fst = names
      ∧ (∀ before name result after,
          (provisionEach scene names).calls
              = before ++ (name, result) :: after →
            result = Database.verdict (created before) name)
      ∧ (provisionEach scene names).scene
        = { scene with
            database := Database.ofTables
              (created (provisionEach scene names).calls) }
      ∧ ((∀ call ∈ (provisionEach scene names).calls,
            ∃ how, call.2 = .ok how)
          ↔ Database.Compatible [] names)
      ∧ ∀ call ∈ (provisionEach scene names).calls,
          (∃ how, call.2 = .ok how) →
            (provisionEach scene names).scene.database.hasTable call.1
              = true := by
  have h : scene.Holding [] := ⟨hempty, hout⟩
  have hs : Database.Sound [] := ⟨by simp, by simp, by simp [Database.Apart]⟩
  obtain ⟨hfst, hcalls, hlast⟩ := provisionEach_ofTables h hnames
  refine ⟨hfst, hcalls, hlast, provisionEach_ok_iff h hs hnames, ?found⟩
  case found =>
    rintro ⟨name, result⟩ hcall ⟨how, rfl⟩
    rw [hlast]
    exact Database.hasTable_ofTables.trans (stands_of_calls h hnames hcall)

/-- Two spellings of a name, the counter book after the first table and
a name that only looks like that of an index are compatible. -/
theorem accepted_provisioned_iff_small :
    let scene : Scene := { files := {}, database := {}, now := 0, host := "h" }
    let names := ["t", "T", "sqlite_sequence", "idx_location"]
    (∀ n ∈ names, isTableName n = true)
      ∧ ∀ call ∈ (provisionEach scene names).calls,
          (∃ how, call.2 = .ok how)
            ∧ (provisionEach scene names).scene.database.hasTable call.1
              = true := by
  intro scene names
  have hnames : ∀ n ∈ names, isTableName n = true := by decide
  obtain ⟨-, -, -, hok, hfound⟩ :=
    accepted_provisioned_iff names hnames scene rfl rfl
  have hall := hok.mpr ⟨by decide, by decide, by decide, by
    unfold Database.Apart
    decide⟩
  exact ⟨hnames, fun call hcall =>
    ⟨hall call hcall, hfound call hcall (hall call hcall)⟩⟩

/-- Accepted names that are not provisioned: a reserved word, the word
of the guard, a name for internal use, and, in either order, a table
beside the name of one of its indexes. -/
theorem accepted_not_provisioned :
    let scene : Scene := { files := {}, database := {}, now := 0, host := "h" }
    (∀ n ∈ ["select", "if", "sqlite_x", "t", "idx_t_location"],
        isTableName n = true)
      ∧ (provisionEach scene ["select"]).calls
        = [("select", .error (.schema "select" (.keyword "select")))]
      ∧ (provisionEach scene ["select"]).scene.database.hasTable "select"
        = false
      ∧ (provisionEach scene ["if"]).calls
        = [("if", .error (.schema "if" (.brokenSchema "if")))]
      ∧ (provisionEach scene ["sqlite_x"]).calls
        = [("sqlite_x", .error (.schema "sqlite_x" (.reserved "sqlite_x")))]
      ∧ (provisionEach scene ["t", "idx_t_location"]).calls
        = [("t", .ok .created),
          ("idx_t_location", .error
            (.schema "idx_t_location" (.indexNamesake "idx_t_location")))]
      ∧ (provisionEach scene ["idx_t_location", "t"]).calls
        = [("idx_t_location", .ok .created),
          ("t", .error (.schema "t" (.tableNamesake "idx_t_location")))] :=
  ⟨by decide, rfl, rfl, rfl, rfl, rfl, rfl⟩

end FileDepot
