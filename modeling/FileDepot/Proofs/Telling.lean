/-
What operations tell, held against what they have done.

A deletion that fails in front of an insertion is passed over, and an
expiry has no result at all, so the events are all that a depot says of
either. They are compared here with the records of its table before and
after, which no event has a part in.

# Which event comes when

A store ends with an event for its result, and in two statements the
event of its deletion stands in front of that (`events_store`). The
numbers in the events are those of the statements: a deletion counts the
records it picks, all of which are gone afterwards (`deleteWhere_counts`),
and an insertion adds one record, whatever the order of the ids in the
table (`insert_perm`).
-/
import FileDepot.Proofs.Lookup
import FileDepot.Proofs.Session.Written

namespace FileDepot

variable {d : Depot} {l : Location} {file : String} {scene : Scene}

/-- What an event is known by: its level and its text. -/
def Event.headline (e : Event) : Level × String := (e.level, e.message)

-- ===================================== the numbers of the statements

namespace Database

variable {db : Database} {name : String}

/-- A deletion leaves the records it does not pick and counts the
others. -/
theorem deleteWhere_counts {picked : Draft → Bool} {p : Nat × Database}
    (h : db.deleteWhere name picked = .ok p) :
    p.2.records name = (db.records name).filter (fun r => !picked r.toDraft)
      ∧ p.1 = (db.records name).countP fun r => picked r.toDraft := by
  obtain ⟨t, ht, -⟩ := deleteWhere_ok h
  have hleft := ht.deleteWhere (sameName_self name) h
  refine ⟨by rw [hleft.records, ht.records]; rfl, ?_⟩
  unfold deleteWhere at h
  rw [show db.object name = _ from ht, ok_bind] at h
  dsimp only at h
  split at h
  · cases h
  · rw [← Except.ok.inj h, ht.records]

/-- A query for a payload that takes place looks into a table. -/
theorem newest_ok {found : Option Record}
    (h : db.newest name l = .ok found) :
    ∃ t, db.Holds name t ∧ found = t.newest? l := by
  unfold newest queried at h
  cases ho : db.object name with
  | error fault => rw [ho] at h; cases h
  | ok object =>
      rw [ho] at h
      cases object with
      | table t => exact ⟨t, ho, (Except.ok.inj h).symm⟩
      | view v => cases h
      | other => cases h
      | catalog c => cases h

/-- An insertion adds one record, made of the draft. -/
theorem insert_perm {draft : Draft} {after : Database}
    (h : db.insert name draft = .ok after) :
    ∃ r : Record, r.toDraft = draft
      ∧ (after.records name).Perm (r :: db.records name) := by
  obtain ⟨t, ht, -⟩ := insert_ok h
  have hleft := ht.insert (sameName_self name) h
  refine ⟨⟨draft, t.nextId⟩, rfl, ?_⟩
  rw [hleft.records, ht.records]
  exact Table.insertSorted_perm ..

end Database

namespace Depot

/-- The records in the table of a depot. -/
def records (d : Depot) (scene : Scene) : List Record :=
  scene.database.records d.table.text

/-- What is told of a deletion. -/
def clearing (l : Location) : Except Failure (Nat × Database) → Event
  | .ok p => .deletedPrevious l p.1
  | .error f => .deleteFailed l f

/-- What is told at the end of a store. -/
def closing (l : Location) (file : String) (length : Int) :
    Except Failure Unit → Event
  | .ok () => .stored l length
  | .error f => .storeFailed l file f

theorem clear_event (d : Depot) (l : Location) (scene : Scene) :
    (d.clear l scene).2 = clearing l (d.deletion l scene) := by
  unfold clear deletion
  cases scene.query fun db => db.deleteAt d.table.text l with
  | ok p => rfl
  | error f => rfl

-- =========================================================== stores

/-- A store without a source tells that and nothing else. -/
theorem store_unread {f : Failure} (h : d.draft scene l file = .error f) :
    d.store l file scene = ⟨.error f, scene, [.storeFailed l file f]⟩ := by
  unfold store
  rw [h]

/-- A store with a source tells how it ended, and in two statements how
its deletion went before that. -/
theorem events_store {draft : Draft} (h : d.draft scene l file = .ok draft) :
    (d.store l file scene).events
      = (if d.options.atomicOverwrite then []
          else [clearing l (d.deletion l scene)])
        ++ [closing l file draft.length (d.store l file scene).result] := by
  rw [← clear_event]
  unfold store
  rw [h]
  dsimp only
  have htold : (d.replace l draft scene).events
      = if d.options.atomicOverwrite then [] else [(d.clear l scene).2] := by
    unfold replace
    cases d.options.atomicOverwrite with
    | true => rfl
    | false => rfl
  rw [← htold]
  cases hresult : (d.replace l draft scene).result with
  | ok _ => simp only [closing]
  | error f => simp only [closing]

/-- A store that succeeds adds one record to those its deletion has
left. -/
theorem records_store {draft : Draft}
    (hread : d.draft scene l file = .ok draft)
    (hok : (d.store l file scene).result = .ok ()) :
    ∃ r : Record, r.toDraft = draft
      ∧ (d.records (d.store l file scene).scene).Perm
          (r :: match d.deletion l scene with
            | .ok _ => (d.records scene).filter fun s => !(s.location == l)
            | .error _ => d.records scene) := by
  have hrule := d.storing l file scene
  rw [hok] at hrule
  generalize (d.store l file scene).scene = left at hrule ⊢
  -- what is left after a deletion that took place
  have hdeleted : ∀ p, d.deletion l scene = .ok p →
      p.2.records d.table.text
        = (d.records scene).filter fun s => !(s.location == l) :=
    fun p hdel => (Database.deleteWhere_counts (Scene.query_ok hdel).2).1
  cases hrule with
  | replaced draft' p db hread' hmode hdel hins =>
      rw [hread] at hread'
      cases hread'
      obtain ⟨r, hr, hperm⟩ := Database.insert_perm hins
      rw [hdeleted p hdel] at hperm
      refine ⟨r, hr, ?_⟩
      rw [hdel]
      exact hperm
  | inserted draft' db hread' hmode hins =>
      rw [hread] at hread'
      cases hread'
      obtain ⟨r, hr, hperm⟩ := Database.insert_perm hins
      refine ⟨r, hr, ?_⟩
      rcases d.clear_cases l scene with ⟨p, hdel, hleft⟩ | ⟨f, hdel, hleft⟩
      · rw [hleft, hdeleted p hdel] at hperm
        rw [hdel]
        exact hperm
      · rw [hleft] at hperm
        rw [hdel]
        exact hperm

/-- What a store tells.

Its last event is about its result: that it has stored a file, with the
size of the payload of the record it added, or that it has failed, with
its failure. No event stands in front of that but one: in two
statements, with a source that is read, it tells how the deletion went.
That is an error exactly when the deletion failed, and then all records
of the location are still there beside the added one; else it is the
number of records the location had. -/
structure StoreTells (d : Depot) (l : Location) (file : String)
    (scene : Scene) : Prop where
  stored : (d.store l file scene).result = .ok ()
    ↔ (d.store l file scene).events.getLast?.map Event.headline
      = some (.info, "store file successfully")
  refused : (d.store l file scene).result ≠ .ok ()
    ↔ (d.store l file scene).events.getLast?.map Event.headline
      = some (.error, "store file failed")
  cause : ∀ f, (d.store l file scene).result = .error f →
    (d.store l file scene).events.getLast? = some (.storeFailed l file f)
  added : (d.store l file scene).result = .ok () →
    ∃ (r : Record) (kept : List Record), r.location = l
      ∧ (d.store l file scene).events.getLast?
        = some (.stored l r.data.length)
      ∧ r.length = r.data.length
      ∧ (d.records (d.store l file scene).scene).Perm (r :: kept)
      ∧ kept = match d.deletion l scene with
        | .ok _ => (d.records scene).filter fun s => !(s.location == l)
        | .error _ => d.records scene
  alone : (d.options.atomicOverwrite = true
      ∨ ∃ f, d.draft scene l file = .error f) →
    (d.store l file scene).events.length = 1
  deletion : d.options.atomicOverwrite = false →
    ∀ draft, d.draft scene l file = .ok draft →
      ∃ e last, (d.store l file scene).events = [e, last]
        ∧ (e.headline = (.error, "delete by location failed")
          ↔ ∃ f, d.deletion l scene = .error f)
        ∧ (e.headline = (.debug, "deleted previous records")
          ↔ ∃ p, d.deletion l scene = .ok p)
        ∧ (∀ f, d.deletion l scene = .error f → e = .deleteFailed l f)
        ∧ ∀ p, d.deletion l scene = .ok p →
          e = .deletedPrevious l
            ((d.records scene).countP fun r => r.location == l)

/-- The closing event tells results apart. -/
theorem headline_closing (l : Location) (file : String) (length : Int)
    (result : Except Failure Unit) :
    (result = .ok () ↔ (closing l file length result).headline
        = (.info, "store file successfully"))
      ∧ (result ≠ .ok () ↔ (closing l file length result).headline
        = (.error, "store file failed")) := by
  cases result with
  | ok _ => simp [closing, Event.headline, Event.level, Event.message]
  | error f => simp [closing, Event.headline, Event.level, Event.message]

/-- The event of a deletion tells whether it took place. -/
theorem headline_clearing (l : Location)
    (result : Except Failure (Nat × Database)) :
    ((clearing l result).headline = (.debug, "deleted previous records")
        ↔ ∃ p, result = .ok p)
      ∧ ((clearing l result).headline = (.error, "delete by location failed")
        ↔ ∃ f, result = .error f) := by
  cases result with
  | ok p => simp [clearing, Event.headline, Event.level, Event.message]
  | error f => simp [clearing, Event.headline, Event.level, Event.message]

/-- The last event of a store is about its result. -/
theorem last_event (d : Depot) (l : Location) (file : String)
    (scene : Scene) :
    ∃ length, (d.store l file scene).events.getLast?
      = some (closing l file length (d.store l file scene).result) := by
  cases hread : d.draft scene l file with
  | error f =>
      rw [store_unread hread]
      exact ⟨0, rfl⟩
  | ok draft => exact ⟨_, by rw [events_store hread, List.getLast?_concat]⟩

/-- A store that succeeds has added a record of its location and tells
the size of its payload. -/
theorem added_of_ok (d : Depot) (l : Location) (file : String)
    (scene : Scene) (hok : (d.store l file scene).result = .ok ()) :
    ∃ (r : Record) (kept : List Record), r.location = l
      ∧ (d.store l file scene).events.getLast?
        = some (.stored l r.data.length)
      ∧ r.length = r.data.length
      ∧ (d.records (d.store l file scene).scene).Perm (r :: kept)
      ∧ kept = match d.deletion l scene with
        | .ok _ => (d.records scene).filter fun s => !(s.location == l)
        | .error _ => d.records scene := by
  cases hread : d.draft scene l file with
  | error f =>
      rw [store_unread hread] at hok
      cases hok
  | ok draft =>
      obtain ⟨r, hr, hperm⟩ := records_store hread hok
      obtain ⟨data, -, -, hdraft⟩ := draft_ok hread
      have hlength : draft.length = r.data.length := by
        rw [hr, hdraft]
        rfl
      rw [hdraft] at hr
      refine ⟨r, _, by rw [hr]; rfl, ?_, by rw [hr]; rfl, hperm, rfl⟩
      rw [events_store hread, List.getLast?_concat, hok, hlength]
      rfl

theorem storeTells (d : Depot) (l : Location) (file : String)
    (scene : Scene) : d.StoreTells l file scene := by
  obtain ⟨length, hlast⟩ := d.last_event l file scene
  have hends := headline_closing l file length (d.store l file scene).result
  refine
    { stored := by rw [hlast]; simpa using hends.1
      refused := by rw [hlast]; simpa using hends.2
      cause := fun f hf => by rw [hlast, hf]; rfl
      added := d.added_of_ok l file scene
      alone := ?alone
      deletion := ?deletion }
  case alone =>
    intro hwhy
    cases hread : d.draft scene l file with
    | error f =>
        rw [store_unread hread]
        rfl
    | ok draft =>
        rcases hwhy with hmode | ⟨f, hf⟩
        · rw [events_store hread, hmode]
          rfl
        · rw [hread] at hf
          cases hf
  case deletion =>
    intro hmode draft hread
    have hevents := events_store hread
    rw [hmode] at hevents
    obtain ⟨hdebug, herror⟩ := headline_clearing l (d.deletion l scene)
    refine ⟨_, _, hevents, herror, hdebug, ?_, ?_⟩
    · intro f hf
      rw [hf]
      rfl
    · intro p hp
      have hcount := (Database.deleteWhere_counts (Scene.query_ok hp).2).2
      rw [hp]
      show Event.deletedPrevious l p.1 = _
      rw [hcount]
      rfl

-- ========================================================== expiries

/-- What an expiry tells: that it has begun, and then either how many
records it has taken from the table, which are those that were expired,
or that it has failed, and then nothing has changed. -/
structure ExpireTells (d : Depot) (bucket : String) (days : Nat)
    (scene : Scene) : Prop where
  ended : ∃ e, (d.expire bucket days scene).events
      = [.cleaning bucket days (cutoff scene.now days), e]
    ∧ ((∃ n, e = .cleaned bucket n
        ∧ (∃ p, d.expiry bucket days scene = .ok p)
        ∧ n + (d.records (d.expire bucket days scene).scene).length
          = (d.records scene).length
        ∧ d.records (d.expire bucket days scene).scene
          = (d.records scene).filter fun r =>
              !r.toDraft.isExpired bucket (cutoff scene.now days))
      ∨ ∃ f, e = .cleanFailed bucket f
        ∧ d.expiry bucket days scene = .error f
        ∧ (d.expire bucket days scene).scene = scene)

theorem expireTells (d : Depot) (bucket : String) (days : Nat)
    (scene : Scene) : d.ExpireTells bucket days scene := by
  constructor
  cases h : d.expiry bucket days scene with
  | error f =>
      have hexpire : d.expire bucket days scene
          = ⟨.ok (), scene, [.cleaning bucket days (cutoff scene.now days),
            .cleanFailed bucket f]⟩ := by
        unfold expiry at h
        unfold expire
        simp only [h]
      rw [hexpire]
      exact ⟨_, rfl, .inr ⟨f, rfl, rfl, rfl⟩⟩
  | ok p =>
      have hexpire : d.expire bucket days scene
          = ⟨.ok (), { scene with database := p.2 },
            [.cleaning bucket days (cutoff scene.now days),
              .cleaned bucket p.1]⟩ := by
        unfold expiry at h
        unfold expire
        simp only [h]
      obtain ⟨hrecords, hcount⟩ :=
        Database.deleteWhere_counts (Scene.query_ok h).2
      have hleft : d.records { scene with database := p.2 }
          = (d.records scene).filter fun r =>
              !r.toDraft.isExpired bucket (cutoff scene.now days) := hrecords
      rw [hexpire]
      refine ⟨_, rfl, .inl ⟨p.1, rfl, ⟨p, rfl⟩, ?_, hleft⟩⟩
      have hsplit := List.length_eq_countP_add_countP
        (fun r : Record => r.toDraft.isExpired bucket
          (cutoff scene.now days)) (l := d.records scene)
      rw [hleft, hcount, ← List.countP_eq_length_filter, hsplit]
      simp [records]

-- ========================================================= downloads

/-- How a download ends and what it tells then. -/
inductive Downloading (d : Depot) (l : Location) (target : String)
    (scene : Scene) : Except Failure Unit → List Event → Prop
  | failed (f : Failure) :
      Downloading d l target scene (.error f) [.downloadFailed l target f]
  | nothing (t : Table) (ht : scene.database.Holds d.table.text t)
      (hnone : t.newest? l = none) :
      Downloading d l target scene (.ok ()) [.nothingStored l]
  | delivered (t : Table) (r : Record)
      (ht : scene.database.Holds d.table.text t)
      (hnew : t.newest? l = some r) :
      Downloading d l target scene (.ok ()) [.downloaded l target]

/-- A download ends in one of these ways. -/
theorem downloading (d : Depot) (l : Location) (target : String)
    (scene : Scene) :
    Downloading d l target scene (d.download l target scene).result
      (d.download l target scene).events := by
  unfold download
  rcases makeRoom scene.files target with ⟨room, _ | failure⟩
  · dsimp only
    unfold fetch
    cases hquery : ({ scene with files := room } : Scene).query
        fun db => db.newest d.table.text l with
    | error f => exact .failed f
    | ok found =>
        obtain ⟨t, ht, hfound⟩ :=
          Database.newest_ok (Scene.query_ok hquery).2
        cases found with
        | none => exact .nothing t ht hfound.symm
        | some r =>
            dsimp only
            rcases d.deliver r target room with ⟨_ | _, files⟩
            · exact .failed _
            · exact .delivered t r ht hfound.symm
  · exact .failed failure

/-- What a download tells: one event, which is an error exactly when it
fails, a warning exactly when it succeeds and nothing is at the
location, and plain information exactly when it succeeds and something
is there. -/
structure DownloadTells (d : Depot) (l : Location) (target : String)
    (scene : Scene) : Prop where
  one : ∃ e, (d.download l target scene).events = [e]
    ∧ (e.headline = (.error, "download file failed")
      ↔ ∃ f, (d.download l target scene).result = .error f)
    ∧ (e.headline = (.warn, "download skipped, file does not exist")
      ↔ (d.download l target scene).result = .ok ()
        ∧ ∀ r ∈ d.records scene, r.location ≠ l)
    ∧ (e.headline = (.info, "download file successfully")
      ↔ (d.download l target scene).result = .ok ()
        ∧ ∃ r ∈ d.records scene, r.location = l)
    ∧ ∀ f, (d.download l target scene).result = .error f →
      e = .downloadFailed l target f

theorem downloadTells (d : Depot) (l : Location) (target : String)
    (scene : Scene) : d.DownloadTells l target scene := by
  constructor
  have hrule := d.downloading l target scene
  generalize (d.download l target scene).result = result at hrule ⊢
  generalize (d.download l target scene).events = events at hrule ⊢
  cases hrule with
  | failed f =>
      refine ⟨_, rfl, ?_⟩
      simp [Event.headline, Event.level, Event.message]
  | nothing t ht hnone =>
      have hempty : ∀ r ∈ d.records scene, r.location ≠ l := by
        unfold records
        rw [ht.records]
        exact Table.newest?_eq_none.mp hnone
      refine ⟨_, rfl, ?_⟩
      simpa [Event.headline, Event.level, Event.message] using hempty
  | delivered t r ht hnew =>
      have hthere : ∃ r ∈ d.records scene, r.location = l := by
        have hnewest := Table.isNewest_of_newest? hnew
        unfold records
        rw [ht.records]
        exact ⟨r, hnewest.mem, hnewest.location⟩
      refine ⟨_, rfl, ?_⟩
      simpa [Event.headline, Event.level, Event.message] using hthere

-- ====================================================== descriptions

/-- What a description tells: its failure, if it fails, and else
nothing. -/
structure DescribeTells (d : Depot) (l : Location) (scene : Scene) :
    Prop where
  failed : ∀ f, (d.describe l scene).result = .error f →
    (d.describe l scene).events = [.describeFailed l f]
  silent : ∀ found, (d.describe l scene).result = .ok found →
    (d.describe l scene).events = []

theorem describeTells (d : Depot) (l : Location) (scene : Scene) :
    d.DescribeTells l scene := by
  constructor
  · intro f hf
    unfold describe at hf ⊢
    cases hlook : d.lookUp l scene with
    | ok found => rw [hlook] at hf; cases hf
    | error g =>
        rw [hlook] at hf
        cases hf
        rfl
  · intro found hok
    unfold describe at hok ⊢
    cases hlook : d.lookUp l scene with
    | ok found => rfl
    | error g => rw [hlook] at hok; cases hok

/-- No failure is passed over in silence and no event tells what is not
so: in every scene, the events of each operation are those of what it
has done. -/
theorem events_tell_the_truth (d : Depot) (l : Location)
    (file target bucket : String) (days : Nat) (scene : Scene) :
    d.StoreTells l file scene ∧ d.ExpireTells bucket days scene
      ∧ d.DownloadTells l target scene ∧ d.DescribeTells l scene :=
  ⟨d.storeTells l file scene, d.expireTells bucket days scene,
    d.downloadTells l target scene, d.describeTells l scene⟩

end Depot

end FileDepot
