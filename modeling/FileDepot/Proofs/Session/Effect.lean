/-
What one step does to the table it works on, in one relation for all
requests, and that it leaves every other table alone.

`Effect` is stated over the table as the step meets it, with the
statements blocked that the step finds blocked. Each rule names the
request, how it ended and whether its deletion failed, so an account of
a session can be kept from these alone; no proof beyond this file opens
an operation again.
-/
import FileDepot.Proofs.Age
import FileDepot.Proofs.Session.Edits

namespace FileDepot

variable {db : Database} {name : String} {t : Table} {s : Step}

-- ====================================================== what is met

/-- The table as a step meets it. -/
def Step.sees (s : Step) (t : Table) : Table :=
  { t with
    blocksDeletes := s.blocksDeletes, blocksInserts := s.blocksInserts }

/-- A table stays numbered whatever is blocked. -/
theorem Step.sees_numbered (h : t.Numbered) : (s.sees t).Numbered :=
  ⟨h.ascending, h.bounded⟩

/-- A table stays timed whatever is blocked. -/
theorem Step.sees_timed {times : List Int} (h : t.Timed times) :
    (s.sees t).Timed times where
  dated := h.dated
  ordered := h.ordered
  whole := h.whole
  read := h.read

namespace Database

/-- Blocking deletions changes the flag of the table of the name. -/
theorem Holds.blockDeletes {n : String} (h : db.Holds name t)
    (hn : FileDepot.sameName n name = true) (on : Bool) :
    (db.blockDeletes n on).Holds name { t with blocksDeletes := on } := by
  unfold Database.blockDeletes
  rw [(holds_iff.mp (h.respell hn)).2]
  exact h.setTable_self rfl

/-- Blocking insertions changes the flag of the table of the name. -/
theorem Holds.blockInserts {n : String} (h : db.Holds name t)
    (hn : FileDepot.sameName n name = true) (on : Bool) :
    (db.blockInserts n on).Holds name { t with blocksInserts := on } := by
  unfold Database.blockInserts
  rw [(holds_iff.mp (h.respell hn)).2]
  exact h.setTable_self rfl

end Database

/-- A step meets its table with the flags it brings. -/
theorem Step.meets_holds (h : db.Holds name t) (hs : s.isOn name) :
    (s.meets db).Holds name (s.sees t) :=
  (h.blockDeletes hs s.blocksDeletes).blockInserts hs s.blocksInserts

-- ============================================================ effects

/-- What a step does to the table it meets. -/
inductive Effect (s : Step) (db : Database) (t : Table) : Table → Prop
  | looked (hask : s.request.looks = true) : Effect s db t t
  | refused (l : Location) (file : String) (f : Failure)
      (hask : s.request = .store l file)
      (hresult : (s.play db).result = .error f)
      (hwhy : s.depot.options.atomicOverwrite = true
        ∨ f.isLocal = true ∨ s.deletionFails db = true) :
      Effect s db t t
  | cleared (l : Location) (file : String) (f : Failure)
      (hask : s.request = .store l file)
      (hresult : (s.play db).result = .error f)
      (hmode : s.depot.options.atomicOverwrite = false)
      (hf : f.isRemote = true) (hdel : s.deletionFails db = false) :
      Effect s db t (t.clear l)
  | replaced (l : Location) (file : String) (draft : Draft)
      (hask : s.request = .store l file)
      (hresult : (s.play db).result = .ok ())
      (hread : s.depot.draft (s.scene db) l file = .ok draft)
      (hdel : s.deletionFails db = false) :
      Effect s db t ((t.clear l).append draft)
  | stacked (l : Location) (file : String) (draft : Draft)
      (hask : s.request = .store l file)
      (hresult : (s.play db).result = .ok ())
      (hread : s.depot.draft (s.scene db) l file = .ok draft)
      (hdel : s.deletionFails db = true) :
      Effect s db t (t.append draft)
  | unswept (bucket : String) (days : Nat)
      (hask : s.request = .expire bucket days)
      (hdel : s.deletionFails db = true) :
      Effect s db t t
  | swept (bucket : String) (days : Nat)
      (hask : s.request = .expire bucket days)
      (hdel : s.deletionFails db = false) :
      Effect s db t (t.sweep bucket (cutoff s.now days))

/-- A table stays numbered through every step. -/
theorem Effect.numbered {t' : Table} (he : Effect s db t t') (ht : t.Numbered) :
    t'.Numbered := by
  cases he with
  | looked => exact ht
  | refused => exact ht
  | unswept => exact ht
  | cleared l => exact ht.drop _
  | swept bucket days => exact ht.drop _
  | replaced l file draft => exact Table.Numbered.append (ht.drop _) draft
  | stacked l file draft => exact ht.append draft

namespace Step

/-- A store plays as the depot's. -/
theorem play_store {l : Location} {file : String}
    (hask : s.request = .store l file) (db : Database) :
    s.play db = s.depot.store l file (s.scene db) := by
  unfold play
  rw [hask]

/-- A store whose deletion takes place has no deletion that fails. -/
theorem deletionFails_of_ok {l : Location} {file : String}
    {p : Nat × Database} (hask : s.request = .store l file)
    (hdel : s.depot.deletion l (s.scene db) = .ok p) :
    s.deletionFails db = false := by
  unfold deletionFails
  rw [hask]
  simp [hdel, Except.isOk, Except.toBool]

/-- A store in two statements whose deletion does not take place has a
deletion that fails. -/
theorem deletionFails_of_error {l : Location} {file : String}
    {draft : Draft} {f : Failure} (hask : s.request = .store l file)
    (hread : s.depot.draft (s.scene db) l file = .ok draft)
    (hmode : s.depot.options.atomicOverwrite = false)
    (hdel : s.depot.deletion l (s.scene db) = .error f) :
    s.deletionFails db = true := by
  unfold deletionFails
  rw [hask]
  simp [hread, hmode, hdel, Except.isOk, Except.toBool]

/-- What a store does to its table. -/
theorem effect_store {l : Location} {file : String}
    (hask : s.request = .store l file) (h : db.Holds name t)
    (hs : s.isOn name) :
    ∃ t', (s.after db).Holds name t' ∧ Effect s db (s.sees t) t' := by
  have hplay := s.play_store hask db
  have hmeets := s.meets_holds h hs
  have hrule := s.depot.storing l file (s.scene db)
  unfold after
  rw [← hplay] at hrule
  generalize hresult : (s.play db).result = result at hrule
  generalize (s.play db).scene = left at hrule ⊢
  cases hrule with
  | unread f hread =>
      exact ⟨_, hmeets,
        .refused l file f hask hresult (.inr (.inl (Depot.draft_error hread)))⟩
  | replaced draft p db' hread hmode hdel hins =>
      have hcleared := hmeets.deleteWhere hs (Scene.query_ok hdel).2
      exact ⟨_, hcleared.insert hs hins,
        .replaced l file draft hask hresult hread
          (deletionFails_of_ok hask hdel)⟩
  | rolledBack draft f hread hmode hf =>
      exact ⟨_, hmeets, .refused l file f hask hresult (.inl hmode)⟩
  | inserted draft db' hread hmode hins =>
      rcases s.depot.clear_cases l (s.scene db) with
        ⟨p, hdel, hleft⟩ | ⟨g, hdel, hleft⟩
      · rw [hleft] at hins
        have hcleared := hmeets.deleteWhere hs (Scene.query_ok hdel).2
        exact ⟨_, hcleared.insert hs hins,
          .replaced l file draft hask hresult hread
            (deletionFails_of_ok hask hdel)⟩
      · rw [hleft] at hins
        exact ⟨_, hmeets.insert hs hins,
          .stacked l file draft hask hresult hread
            (deletionFails_of_error hask hread hmode hdel)⟩
  | notInserted draft f hread hmode hf =>
      rcases s.depot.clear_cases l (s.scene db) with
        ⟨p, hdel, hleft⟩ | ⟨g, hdel, hleft⟩
      · rw [hleft]
        exact ⟨_, hmeets.deleteWhere hs (Scene.query_ok hdel).2,
          .cleared l file f hask hresult hmode hf
            (deletionFails_of_ok hask hdel)⟩
      · rw [hleft]
        exact ⟨_, hmeets,
          .refused l file f hask hresult
            (.inr (.inr (deletionFails_of_error hask hread hmode hdel)))⟩

/-- What an expiry does to its table. -/
theorem effect_expire {bucket : String} {days : Nat}
    (hask : s.request = .expire bucket days) (h : db.Holds name t)
    (hs : s.isOn name) :
    ∃ t', (s.after db).Holds name t' ∧ Effect s db (s.sees t) t' := by
  have hmeets := s.meets_holds h hs
  have hplay : s.play db = s.depot.expire bucket days (s.scene db) := by
    unfold play
    rw [hask]
  have hfails : s.deletionFails db
      = !(s.depot.expiry bucket days (s.scene db)).isOk := by
    unfold deletionFails
    rw [hask]
  unfold after
  rw [hplay]
  rcases s.depot.expire_cases bucket days (s.scene db) with
    ⟨p, hdel, hleft⟩ | ⟨f, hdel, hleft⟩
  · rw [hdel] at hfails
    rw [hleft]
    exact ⟨_, hmeets.deleteWhere hs (Scene.query_ok hdel).2,
      .swept bucket days hask hfails⟩
  · rw [hdel] at hfails
    rw [hleft]
    exact ⟨_, hmeets, .unswept bucket days hask hfails⟩

/-- A step does to its table what its request and its ending say. -/
theorem effect (h : db.Holds name t) (hs : s.isOn name) :
    ∃ t', (s.after db).Holds name t' ∧ Effect s db (s.sees t) t' := by
  cases hlooks : s.request.looks with
  | true =>
      have hmeets := s.meets_holds h hs
      refine ⟨s.sees t, ?_, .looked hlooks⟩
      rcases s.after_of_looks hlooks db with hafter | hafter
      · rw [hafter]
        exact hmeets
      · rw [hafter]
        exact hmeets.provision _ _
  | false =>
      cases hask : s.request with
      | store l file => exact effect_store hask h hs
      | expire bucket days => exact effect_expire hask h hs
      | download l target => rw [hask] at hlooks; cases hlooks
      | describe l => rw [hask] at hlooks; cases hlooks
      | provision => rw [hask] at hlooks; cases hlooks

end Step

/-- A step leaves every table it does not work on. -/
theorem Step.after_holds_of_ne (h : db.Holds name t)
    (hs : ¬s.isOn name) : (s.after db).Holds name t := by
  obtain ⟨hword, ht⟩ := Database.holds_iff.mp h
  have hn : sameName s.table name = false := by
    simpa [isOn] using hs
  rcases s.after_edits db with hedits | ⟨-, hmade⟩
  · refine Database.holds_iff.mpr ⟨hword, ?_⟩
    rw [hedits.table?_of_ne hn, ht]
  · have hmeets : (s.meets db).Holds name t := by
      refine Database.holds_iff.mpr ⟨hword, ?_⟩
      rw [(s.edits_meets (P := s.Drafts db) db).table?_of_ne hn, ht]
    rw [hmade]
    exact hmeets.of_tables (Database.withTable_tables ..)

end FileDepot
