/-
Expiries one after another: what each of them takes, and how they
compose.

A deletion takes place over a connection unless the table blocks it, and
a blocked table refuses only a deletion that reaches a record (`Lets`). So
an expiry that takes place on a blocked table has taken nothing, and
whether the next one takes place does not depend on the one before
(`Lets.sweep`). With that settled, expiries compose as the filters do
that they are: two of one bucket are the one with the later cutoff, which
is that of fewer days (`sweep_sweep`), and the order of two never matters
(`sweep_comm`).

# Ids

An expiry keeps the highest id the table has ever had, and nothing a
depot is asked for lowers it (`highest_session`). So a record that is
stored later, however much later, has an id above all ids from before,
also above those of the records that were taken.
-/
import FileDepot.Proofs.Expiry
import FileDepot.Proofs.Session.Written

namespace FileDepot

-- ============================================================= tables

/-- Is in the bucket and was last changed, at a known time, before the
cutoff. -/
def Draft.Stale (d : Draft) (bucket : String) (limit : Int) : Prop :=
  d.bucket = bucket ∧ ∃ time ∈ d.modified, time < limit

instance (d : Draft) (bucket : String) (limit : Int) :
    Decidable (d.Stale bucket limit) :=
  inferInstanceAs (Decidable (_ ∧ _))

theorem Draft.isExpired_iff_stale {d : Draft} {bucket : String} {limit : Int} :
    d.isExpired bucket limit = true ↔ d.Stale bucket limit :=
  isExpired_iff

/-- A later cutoff takes what each of two takes. -/
theorem Draft.isExpired_max (d : Draft) (bucket : String) (a b : Int) :
    d.isExpired bucket (max a b)
      = (d.isExpired bucket a || d.isExpired bucket b) := by
  rw [Bool.eq_iff_iff, Bool.or_eq_true]
  simp only [isExpired_iff]
  constructor
  · rintro ⟨hbucket, time, htime, hlt⟩
    by_cases ha : time < a
    · exact .inl ⟨hbucket, time, htime, ha⟩
    · exact .inr ⟨hbucket, time, htime, by omega⟩
  · rintro (⟨hbucket, time, htime, hlt⟩ | ⟨hbucket, time, htime, hlt⟩)
    · exact ⟨hbucket, time, htime, by omega⟩
    · exact ⟨hbucket, time, htime, by omega⟩

namespace Table

variable {t : Table} {bucket other : String} {limit a b : Int}

/-- Two sweeps of a bucket are the one with the later cutoff. -/
theorem sweep_sweep (t : Table) (bucket : String) (a b : Int) :
    (t.sweep bucket a).sweep bucket b = t.sweep bucket (max a b) := by
  unfold sweep drop
  dsimp only
  rw [List.filter_filter]
  congr 1
  refine List.filter_congr fun r _ => ?_
  rw [Draft.isExpired_max, Bool.not_or, Bool.and_comm]

/-- Sweeps can change places. -/
theorem sweep_comm (t : Table) (bucket other : String) (a b : Int) :
    (t.sweep bucket a).sweep other b = (t.sweep other b).sweep bucket a := by
  unfold sweep drop
  dsimp only
  rw [List.filter_filter, List.filter_filter]
  congr 1
  refine List.filter_congr fun r _ => ?_
  rw [Bool.and_comm]

/-- The table lets a sweep take place: it does not block deletions, or
none of its records is reached. -/
def Lets (t : Table) (bucket : String) (limit : Int) : Prop :=
  t.blocksDeletes = true →
    ∀ r ∈ t.records, r.toDraft.isExpired bucket limit = false

/-- A sweep that takes place does not change what the table lets take
place. -/
theorem Lets.sweep (h : t.Lets bucket a) :
    (t.sweep bucket a).Lets other b ↔ t.Lets other b := by
  unfold Lets
  refine imp_congr_right fun hblocks => ?_
  -- a blocked table was not changed
  have hsame : (t.sweep bucket a).records = t.records := by
    rw [sweep_records, List.filter_eq_self]
    intro r hr
    rw [h hblocks r hr]
    rfl
  rw [hsame]

/-- A later cutoff is let take place when each of two is. -/
theorem lets_max : t.Lets bucket (max a b)
    ↔ t.Lets bucket a ∧ t.Lets bucket b := by
  unfold Lets
  simp only [Draft.isExpired_max, Bool.or_eq_false_iff]
  constructor
  · intro h
    exact ⟨fun hblocks r hr => (h hblocks r hr).1,
      fun hblocks r hr => (h hblocks r hr).2⟩
  · rintro ⟨ha, hb⟩ hblocks r hr
    exact ⟨ha hblocks r hr, hb hblocks r hr⟩

end Table

/-- Of days that fit, fewer have the later cutoff. -/
theorem cutoff_min {now : Int} {a b : Nat} (ha : CutoffFits now a)
    (hb : CutoffFits now b) :
    cutoff now (min a b) = max (cutoff now a) (cutoff now b) := by
  have hmin : CutoffFits now (min a b) := by
    rw [Nat.min_def]
    split
    · exact ha
    · exact hb
  rw [hmin.cutoff_eq, ha.cutoff_eq, hb.cutoff_eq]
  unfold millisPerDay
  omega

-- ========================================================== databases

namespace Database

variable {db : Database} {name : String} {t u : Table}

/-- Of two tables put in one place the second stays. -/
theorem setTable_setTable (db : Database) (hn : u.name = t.name) :
    (db.setTable t).setTable u = db.setTable u := by
  refine congrArg (fun tables => { db with tables := tables }) ?_
  unfold setTable
  dsimp only
  rw [List.map_map]
  refine List.map_congr_left fun v _ => ?_
  rw [Function.comp_apply, hn]
  by_cases hv : FileDepot.sameName v.name t.name = true
  · rw [if_pos hv, if_pos (sameName_self _), if_pos hv]
  · rw [if_neg hv, if_neg hv]

/-- A deletion takes place exactly when the table does not block it or
holds nothing of what it picks. -/
theorem Holds.deleteWhere_iff (h : db.Holds name t)
    (picked : Draft → Bool) :
    (∃ p, db.deleteWhere name picked = .ok p)
      ↔ (t.blocksDeletes = true →
        ∀ r ∈ t.records, picked r.toDraft = false) := by
  unfold Database.deleteWhere
  rw [show db.object name = _ from h, ok_bind]
  dsimp only
  have hnone : (t.records.countP (fun r => picked r.toDraft) != 0) = false
      ↔ ∀ r ∈ t.records, picked r.toDraft = false := by
    rw [bne_eq_false_iff_eq, List.countP_eq_zero]
    simp only [Bool.not_eq_true]
  rw [← hnone]
  generalize (t.records.countP (fun r => picked r.toDraft) != 0) = hit
  cases t.blocksDeletes with
  | false => exact ⟨fun _ => nofun, fun _ => ⟨_, rfl⟩⟩
  | true =>
      cases hit with
      | false => exact ⟨fun _ _ => rfl, fun _ => ⟨_, rfl⟩⟩
      | true => exact ⟨nofun, fun h => nomatch h rfl⟩

end Database

-- ============================================================= scenes

namespace Depot

variable {d : Depot} {scene : Scene} {t : Table} {bucket : String}
  {days : Nat}

/-- The deletion of an expiry takes place. -/
def Expires (d : Depot) (bucket : String) (days : Nat) (scene : Scene) :
    Prop :=
  ∃ p, d.expiry bucket days scene = .ok p

/-- The deletion of an expiry takes place with a connection and a table
that lets it. -/
theorem expires_iff (h : scene.database.Holds d.table.text t) :
    d.Expires bucket days scene
      ↔ scene.outage = none ∧ t.Lets bucket (cutoff scene.now days) := by
  have hdelete := h.deleteWhere_iff
    (Draft.isExpired bucket (cutoff scene.now days))
  unfold Expires expiry
  constructor
  · rintro ⟨p, hp⟩
    obtain ⟨hout, hp⟩ := Scene.query_ok hp
    exact ⟨hout, hdelete.mp ⟨p, hp⟩⟩
  · rintro ⟨hout, hlets⟩
    obtain ⟨p, hp⟩ := hdelete.mpr hlets
    refine ⟨p, ?_⟩
    rw [Scene.query_of_outage hout]
    show (scene.database.deleteWhere _ _).mapError _ = _
    rw [hp]
    rfl

/-- An expiry whose deletion takes place sweeps its table. -/
theorem expire_scene (h : scene.database.Holds d.table.text t)
    (hex : d.Expires bucket days scene) :
    (d.expire bucket days scene).scene
      = { scene with
          database := scene.database.setTable
            (t.sweep bucket (cutoff scene.now days)) } := by
  rcases d.expire_cases bucket days scene with
    ⟨p, hp, hleft⟩ | ⟨f, hf, -⟩
  · obtain ⟨u, hu, hdb⟩ := Database.deleteWhere_ok (Scene.query_ok hp).2
    rw [hleft, hdb, hu.unique h]
    rfl
  · obtain ⟨p, hp⟩ := hex
    rw [hp] at hf
    cases hf

/-- An expiry whose deletion does not take place leaves the scene. -/
theorem expire_refused (hex : ¬d.Expires bucket days scene) :
    (d.expire bucket days scene).scene = scene := by
  rcases d.expire_cases bucket days scene with ⟨p, hp, -⟩ | ⟨f, -, hleft⟩
  · exact absurd ⟨p, hp⟩ hex
  · exact hleft

/-- The scene that an expiry leaves when the clock is at a time. -/
def expireAt (d : Depot) (bucket : String) (days : Nat) (now : Int)
    (scene : Scene) : Scene :=
  (d.expire bucket days { scene with now := now }).scene

/-- The deletion of an expiry takes place when the clock is at a time. -/
def ExpiresAt (d : Depot) (bucket : String) (days : Nat) (now : Int)
    (scene : Scene) : Prop :=
  d.Expires bucket days { scene with now := now }

/-- The scene with another table in the place of that of its name, and
the clock at a time. -/
def swept (scene : Scene) (t : Table) (now : Int) : Scene :=
  { scene with database := scene.database.setTable t, now := now }

variable {other : String} {more : Nat} {now later : Int}

theorem expiresAt_iff (h : scene.database.Holds d.table.text t) :
    d.ExpiresAt bucket days now scene
      ↔ scene.outage = none ∧ t.Lets bucket (cutoff now days) := by
  have hnow : ({ scene with now := now } : Scene).database.Holds
      d.table.text t := h
  exact expires_iff hnow

theorem expireAt_eq (h : scene.database.Holds d.table.text t)
    (hex : d.ExpiresAt bucket days now scene) :
    d.expireAt bucket days now scene
      = swept scene (t.sweep bucket (cutoff now days)) now := by
  have hnow : ({ scene with now := now } : Scene).database.Holds
      d.table.text t := h
  exact expire_scene hnow hex

/-- Behind an expiry that takes place another one takes place exactly
when it would have taken place before, and leaves the table swept
twice. -/
theorem expireAt_expireAt (h : scene.database.Holds d.table.text t)
    (hfirst : d.ExpiresAt bucket days now scene) :
    (d.ExpiresAt other more later (d.expireAt bucket days now scene)
        ↔ d.ExpiresAt other more later scene)
      ∧ (d.ExpiresAt other more later scene →
        d.expireAt other more later (d.expireAt bucket days now scene)
          = swept scene ((t.sweep bucket (cutoff now days)).sweep other
            (cutoff later more)) later) := by
  have hlets := ((expiresAt_iff h).mp hfirst).2
  have hleft : (swept scene (t.sweep bucket (cutoff now days))
      now).database.Holds d.table.text (t.sweep bucket (cutoff now days)) :=
    h.setTable_self rfl
  rw [expireAt_eq h hfirst]
  have hagain : d.ExpiresAt other more later
        (swept scene (t.sweep bucket (cutoff now days)) now)
      ↔ d.ExpiresAt other more later scene := by
    rw [expiresAt_iff hleft, expiresAt_iff h, hlets.sweep]
    rfl
  refine ⟨hagain, fun hsecond => ?_⟩
  rw [expireAt_eq hleft (hagain.mpr hsecond)]
  have hname : ((t.sweep bucket (cutoff now days)).sweep other
      (cutoff later more)).name = (t.sweep bucket (cutoff now days)).name :=
    rfl
  unfold swept
  dsimp only
  rw [Database.setTable_setTable _ hname]

/-- Behind an expiry that takes place, one of the same bucket at the same
time leaves what that of fewer days leaves. -/
theorem expireAt_min (h : scene.database.Holds d.table.text t)
    (hdays : CutoffFits now days) (hmore : CutoffFits now more)
    (hfirst : d.ExpiresAt bucket days now scene)
    (hsecond : d.ExpiresAt bucket more now scene) :
    d.expireAt bucket more now (d.expireAt bucket days now scene)
      = d.expireAt bucket (min days more) now scene := by
  have hboth : d.ExpiresAt bucket (min days more) now scene := by
    rw [expiresAt_iff h, cutoff_min hdays hmore, Table.lets_max]
    exact ⟨((expiresAt_iff h).mp hfirst).1, ((expiresAt_iff h).mp hfirst).2,
      ((expiresAt_iff h).mp hsecond).2⟩
  rw [(expireAt_expireAt h hfirst).2 hsecond, expireAt_eq h hboth,
    Table.sweep_sweep, cutoff_min hdays hmore]

/-- Two expiries that take place leave the same database in either
order. -/
theorem expireAt_comm (h : scene.database.Holds d.table.text t)
    (hfirst : d.ExpiresAt bucket days now scene)
    (hsecond : d.ExpiresAt other more later scene) :
    (d.expireAt other more later
        (d.expireAt bucket days now scene)).database
      = (d.expireAt bucket days now
        (d.expireAt other more later scene)).database := by
  rw [(expireAt_expireAt h hfirst).2 hsecond,
    (expireAt_expireAt h hsecond).2 hfirst, Table.sweep_comm]
  rfl

/-- An expiry leaves the table with its highest id. -/
theorem highest_expire (h : scene.database.Holds d.table.text t)
    (ht : t.Numbered) :
    ∃ left, (d.expire bucket days scene).scene.database.Holds d.table.text
        left
      ∧ left.Numbered ∧ left.highest = t.highest := by
  by_cases hex : d.Expires bucket days scene
  · rw [expire_scene h hex]
    exact ⟨_, h.setTable_self rfl, ht.drop _, rfl⟩
  · rw [expire_refused hex]
    exact ⟨t, h, ht, rfl⟩

end Depot

-- ================================================================ ids

variable {db : Database} {name : String} {t : Table}

/-- A session keeps a table, and never lowers the highest id it has ever
had. -/
theorem highest_session (h : db.Holds name t) (ht : t.Numbered)
    (steps : List Step) :
    ∃ t', (session db steps).Holds name t' ∧ t'.Numbered
      ∧ t.highest ≤ t'.highest := by
  refine session_induction
    (P := fun _ now => ∃ t', now.Holds name t' ∧ t'.Numbered
      ∧ t.highest ≤ t'.highest) ?_ ?_ steps
  · exact ⟨t, h, ht, Int.le_refl _⟩
  · rintro - now s ⟨u, hu, hnum, hle⟩
    by_cases hs : s.isOn name
    · obtain ⟨t', h', he⟩ := s.effect hu hs
      have hsees := s.sees_numbered hnum
      refine ⟨t', h', he.numbered hsees, ?_⟩
      have hlt : u.highest < (s.sees u).nextId :=
        (s.sees u).highest_lt_nextId
      rcases he.kept hsees with
        ⟨-, hhigh, -⟩ | ⟨l, file, draft, rest, -, -, -, -, -, hhigh⟩
      · have hsame : t'.highest = u.highest := hhigh
        omega
      · omega
    · exact ⟨u, s.after_holds_of_ne hu hs, hnum, hle⟩

/-- A store that succeeds after a session writes a record with an id above
all ids there were before. -/
theorem written_above (h : db.Holds name t) (ht : t.Numbered)
    (steps : List Step) {s : Step} {l : Location} (hs : s.isOn name)
    (hstores : s.StoresAt (session db steps) l) :
    ∃ r, s.written (session db steps) name = [r] ∧ r.location = l
      ∧ t.highest < r.id ∧ ∀ q ∈ t.records, q.id < r.id := by
  obtain ⟨t', h', ht', hle⟩ := highest_session h ht steps
  obtain ⟨file, draft, hask, hread, hwritten⟩ :=
    Step.written_of_storesAt h' ht' hs hstores
  have hlt := t'.highest_lt_nextId
  have hwrote := s.wrote_of_draft hask hread t'.nextId
  refine ⟨_, hwritten, ?_, show t.highest < t'.nextId by omega, ?_⟩
  · obtain ⟨file', hask', -⟩ := hwrote.source
    rw [hask] at hask'
    injection hask' with hl
    exact hl.symm
  · intro q hq
    have hle := ht.bounded q hq
    show q.id < t'.nextId
    omega

namespace Depot

variable {d : Depot} {scene : Scene}

/-- Expiries of a table.

One whose deletion takes place takes exactly the records of the bucket
that were last changed before the cutoff, and leaves all else in the
scene as it is, the other records in their order and the highest id
included; one whose deletion does not take place leaves the scene. The
deletion takes place unless there is an outage, or the table blocks it
and it would reach a record; an expiry before it makes no difference.

Where deletions take place, two expiries of a bucket at one time are in
either order the one of fewer days, and two of any buckets at any times
can change places. Which records and which days those are is said of
cutoffs that fit into the 64 bits they are counted in (`CutoffFits`). And whatever is done after an expiry, a store that
succeeds then writes a record with an id above all ids there were before
it. -/
theorem expiries_compose (h : scene.database.Holds d.table.text t) :
    (∀ bucket days,
        (¬d.Expires bucket days scene →
          (d.expire bucket days scene).scene = scene)
        ∧ (CutoffFits scene.now days →
          (d.Expires bucket days scene →
            (d.expire bucket days scene).scene
              = { scene with
                  database := scene.database.setTable
                    { t with
                      records := t.records.filter fun r =>
                        ¬r.Stale bucket (scene.now - days * 86400000) } })
          ∧ (d.Expires bucket days scene
            ↔ scene.outage = none
              ∧ (t.blocksDeletes = true → ∀ r ∈ t.records,
                ¬r.Stale bucket (scene.now - days * 86400000)))))
      ∧ (∀ bucket days now other more later,
          d.ExpiresAt bucket days now scene →
          (d.ExpiresAt other more later (d.expireAt bucket days now scene)
            ↔ d.ExpiresAt other more later scene))
      ∧ (∀ bucket days more now,
          CutoffFits now days → CutoffFits now more →
          d.ExpiresAt bucket days now scene →
          d.ExpiresAt bucket more now scene →
          d.expireAt bucket more now (d.expireAt bucket days now scene)
              = d.expireAt bucket (min days more) now scene
            ∧ d.expireAt bucket days now (d.expireAt bucket more now scene)
              = d.expireAt bucket (min days more) now scene)
      ∧ (∀ bucket days now other more later,
          d.ExpiresAt bucket days now scene →
          d.ExpiresAt other more later scene →
          (d.expireAt other more later
              (d.expireAt bucket days now scene)).database
            = (d.expireAt bucket days now
              (d.expireAt other more later scene)).database)
      ∧ (t.Numbered → ∀ bucket days (steps : List Step) (s : Step) l,
          let now := session (d.expire bucket days scene).scene.database steps
          s.isOn d.table.text → s.StoresAt now l →
          ∃ r, s.written now d.table.text = [r] ∧ r.location = l
            ∧ t.highest < r.id ∧ ∀ q ∈ t.records, q.id < r.id) := by
  refine ⟨fun bucket days =>
      ⟨expire_refused, fun hfits => ⟨?takes, ?when⟩⟩,
    fun bucket days now other more later hfirst =>
      (expireAt_expireAt h hfirst).1, ?fewer,
    fun bucket days now other more later => expireAt_comm h, ?ids⟩
  case takes =>
    intro hex
    rw [expire_scene h hex]
    have hfilter : (t.sweep bucket (cutoff scene.now days)).records
        = t.records.filter fun r =>
            ¬r.Stale bucket (scene.now - days * 86400000) := by
      rw [Table.sweep_records]
      refine List.filter_congr fun r _ => ?_
      rw [Bool.eq_iff_iff, Bool.not_eq_true', ← Bool.not_eq_true,
        Draft.isExpired_iff_stale, decide_eq_true_iff, hfits.cutoff_eq]
      rfl
    rw [← hfilter]
    rfl
  case when =>
    rw [expires_iff h]
    unfold Table.Lets
    simp only [← Bool.not_eq_true, Draft.isExpired_iff_stale, hfits.cutoff_eq]
    rfl
  case fewer =>
    intro bucket days more now hdays hmore hfirst hsecond
    refine ⟨expireAt_min h hdays hmore hfirst hsecond, ?_⟩
    rw [Nat.min_comm]
    exact expireAt_min h hmore hdays hsecond hfirst
  case ids =>
    intro ht bucket days steps s l now hs hstores
    obtain ⟨left, hleft, hnumbered, hhigh⟩ : ∃ left,
        (d.expire bucket days scene).scene.database.Holds d.table.text left
          ∧ left.Numbered ∧ left.highest = t.highest :=
      highest_expire h ht
    obtain ⟨r, hwritten, hl, habove, -⟩ :=
      written_above hleft hnumbered steps hs hstores
    refine ⟨r, hwritten, hl, by omega, fun q hq => ?_⟩
    have hle := ht.bounded q hq
    omega

/-- A table with two records in one bucket, a day apart, and a third one
in another. -/
def agedTable : Table where
  name := "t"
  records :=
    [⟨.ofFile ⟨"b", "n"⟩ [1] "{}" 0, 1⟩,
      ⟨.ofFile ⟨"b", "m"⟩ [2] "{}" 86400000, 2⟩,
      ⟨.ofFile ⟨"c", "n"⟩ [3] "{}" 0, 3⟩]
  highest := 3

/-- A scene with that table, a day after the second record. -/
def agedScene : Scene where
  files := {}
  database := { tables := [agedTable], hasCounterBook := true }
  now := 172800000
  host := "h"

/-- The record at the cutoff of one day stays and goes with no days at
all; and the newest id is not given out again once it was taken. -/
theorem expiries_compose_aged :
    let d := (smallStore 0).depot
    agedScene.database.Holds d.table.text agedTable
      ∧ agedTable.Numbered
      ∧ (d.expire "b" 1 agedScene).scene
        = { agedScene with
            database := agedScene.database.setTable
              { agedTable with
                records := agedTable.records.filter fun r =>
                  ¬r.Stale "b" 86400000 } }
      ∧ d.expireAt "b" 0 172800000 (d.expireAt "b" 1 172800000 agedScene)
        = d.expireAt "b" 0 172800000 agedScene
      ∧ ∃ r, (smallStore 0).written
          (d.expire "c" 1 agedScene).scene.database "t" = [r]
        ∧ 3 < r.id := by
  intro d
  have h : agedScene.database.Holds d.table.text agedTable :=
    Database.holds_iff.mpr ⟨by decide, by decide⟩
  have hnumbered : agedTable.Numbered := ⟨by decide, by decide⟩
  have hexpires : ∀ bucket days, d.ExpiresAt bucket days 172800000 agedScene :=
    fun _ _ => (expiresAt_iff h).mpr ⟨rfl, nofun⟩
  have hstores : (smallStore 0).StoresAt
      (d.expire "c" 1 agedScene).scene.database ⟨"b", "n"⟩ :=
    ⟨"f", rfl, by decide +kernel⟩
  obtain ⟨hexact, -, hfewer, -, hids⟩ := expiries_compose (d := d) h
  obtain ⟨r, hwritten, -, habove, -⟩ :=
    hids hnumbered "c" 1 [] (smallStore 0) _ (by decide) hstores
  exact ⟨h, hnumbered,
    ((hexact "b" 1).2 (by decide)).1 (hexpires "b" 1),
    (hfewer "b" 1 0 172800000 (by decide) (by decide) (hexpires "b" 1)
      (hexpires "b" 0)).1,
    r, hwritten, habove⟩

end Depot

end FileDepot
