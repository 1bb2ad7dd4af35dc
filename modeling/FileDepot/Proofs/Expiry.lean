/-
Expiry against the time of change that is reported.

The two read a record's age differently. A description falls back to the
time of creation where no time of change is known; the deletion of an
expiry compares the time of change alone, and passes over a record that
has none. So a record without a time of change is reported with an age
and never expires (`kept_before_iff`), and this is the only way in which
something too old is still reported after an expiry (`expire_reported`).
-/
import FileDepot.Proofs.Lookup

namespace FileDepot

-- ================================================================ age

namespace Draft

variable {d : Draft} {bucket : String} {limit : Int}

theorem isExpired_iff :
    d.isExpired bucket limit = true
      ↔ d.bucket = bucket ∧ ∃ time, d.modified = some time ∧ time < limit := by
  unfold isExpired
  cases d.modified <;> simp

/-- What expires is reported as too old. -/
theorem modifiedMillis_lt_of_isExpired
    (h : d.isExpired bucket limit = true) : d.modifiedMillis < limit := by
  obtain ⟨-, time, htime, hlt⟩ := isExpired_iff.mp h
  unfold modifiedMillis
  rw [htime]
  exact hlt

/-- What does not expire in its own bucket is too old only when it has no
time of change. -/
theorem kept_before_iff (h : d.isExpired d.bucket limit = false) :
    d.modifiedMillis < limit ↔ d.modified = none ∧ d.created < limit := by
  unfold modifiedMillis
  cases hm : d.modified with
  | none => simp
  | some time =>
      have hkept : ¬time < limit := by
        intro hlt
        rw [isExpired_iff.mpr ⟨rfl, time, hm, hlt⟩] at h
        cases h
      simpa using hkept

/-- A descriptor reports the time of change of its record. -/
theorem millis_of_descriptor {descriptor : Descriptor}
    (h : d.descriptor = .ok descriptor) :
    descriptor.lastModified.millis = d.modifiedMillis := by
  unfold Draft.descriptor at h
  split at h
  · cases h
  · split at h
    · cases h
    · next instant hinstant =>
      split at h
      · cases h
      · rw [← Except.ok.inj h]
        unfold Calendar.Instant.ofMillis? at hinstant
        split at hinstant
        · rw [← Option.some.inj hinstant]
          exact Calendar.Instant.millis_ofMillis _
        · cases hinstant

end Draft

/-- What is described was read off the record. -/
theorem descriptor_of_found {r : Record} {descriptor : Descriptor}
    (h : foundDescriptor (some r) = .ok (some descriptor)) :
    r.toDraft.descriptor = .ok descriptor := by
  unfold foundDescriptor at h
  dsimp only at h
  cases hd : r.toDraft.descriptor with
  | error f => rw [hd] at h; cases h
  | ok found =>
      rw [hd] at h
      injection h with hsome
      rw [Option.some.inj hsome]

-- ============================================================= expiry

namespace Depot

variable {d : Depot} {scene : Scene} {t : Table}

/-- What an expiry leaves of its table. -/
theorem holds_expire (h : scene.database.Holds d.table.text t)
    {bucket : String} {days : Nat} {p : Nat × Database}
    (hdel : d.expiry bucket days scene = .ok p) :
    (d.expire bucket days scene).scene.database.Holds d.table.text
      (t.sweep bucket (cutoff scene.now days)) := by
  rcases d.expire_cases bucket days scene with
    ⟨q, hq, hleft⟩ | ⟨f, hf, -⟩
  · rw [hleft]
    exact h.deleteWhere (sameName_self _) (Scene.query_ok hq).2
  · rw [hdel] at hf
    cases hf

/-- An expiry that succeeds takes the records of the bucket whose time of
change is known and before the cutoff. None of them is of another
bucket or reported as changed at the cutoff or later. What is described
in the bucket afterwards is reported as changed before the cutoff
exactly when the newest record there has no time of change and was
created before the cutoff. -/
theorem expire_reported (h : scene.database.Holds d.table.text t)
    (bucket : String) (days : Nat) {p : Nat × Database}
    (hdel : d.expiry bucket days scene = .ok p) :
    ∃ left,
      (d.expire bucket days scene).scene.database.Holds d.table.text left
        ∧ (∀ r, r ∈ left.records
            ↔ r ∈ t.records ∧ ¬(r.bucket = bucket
              ∧ ∃ time, r.modified = some time
                ∧ time < cutoff scene.now days))
        ∧ (∀ r ∈ t.records,
            r.bucket ≠ bucket ∨ cutoff scene.now days ≤ r.modifiedMillis →
              r ∈ left.records)
        ∧ ∀ (name : String) (later : Scene) (descriptor : Descriptor),
            later.database = (d.expire bucket days scene).scene.database →
            later.outage = none →
            (d.describe ⟨bucket, name⟩ later).result
                = .ok (some descriptor) →
              (descriptor.lastModified.millis < cutoff scene.now days
                ↔ ∃ r, left.newest? ⟨bucket, name⟩ = some r
                  ∧ r.modified = none
                  ∧ r.created < cutoff scene.now days) := by
  have hleft := holds_expire h hdel
  refine ⟨_, hleft, fun r => ?members, fun r hr hspared => ?spared, ?reported⟩
  case members =>
    rw [Table.sweep_records, List.mem_filter, Bool.not_eq_true',
      ← Bool.not_eq_true, Draft.isExpired_iff]
  case spared =>
    rw [Table.sweep_records, List.mem_filter, Bool.not_eq_true',
      ← Bool.not_eq_true]
    refine ⟨hr, fun hexpired => ?_⟩
    rcases hspared with hbucket | hage
    · exact hbucket (Draft.isExpired_iff.mp hexpired).1
    · have := Draft.modifiedMillis_lt_of_isExpired hexpired
      omega
  case reported =>
    intro name later descriptor hdb hout hdescribed
    rw [← hdb] at hleft
    rw [describe_eq hleft hout] at hdescribed
    cases hnew : (t.sweep bucket (cutoff scene.now days)).newest?
        ⟨bucket, name⟩ with
    | none => rw [hnew] at hdescribed; cases hdescribed
    | some r =>
        have hr := Table.isNewest_of_newest? hnew
        have hdescriptor := descriptor_of_found (hnew ▸ hdescribed)
        have hkept : r.toDraft.isExpired r.bucket (cutoff scene.now days)
            = false := by
          have hbucket : r.bucket = bucket :=
            congrArg Location.bucket hr.location
          have hmem := hr.mem
          rw [Table.sweep_records, List.mem_filter] at hmem
          rw [hbucket]
          simpa using hmem.2
        rw [Draft.millis_of_descriptor hdescriptor,
          Draft.kept_before_iff hkept]
        simp

/-- A table with a record that has no time of change. -/
def undatedTable : Table where
  name := "t"
  records :=
    [⟨{ Draft.ofFile ⟨"b", "n"⟩ [1] "{}" 0 with modified := none }, 1⟩]
  highest := 1

/-- A scene with that table, two days after the record was created. -/
def undatedScene : Scene where
  files := {}
  database := { tables := [undatedTable], hasCounterBook := true }
  now := 172800000
  host := "h"

theorem undatedScene_holds :
    undatedScene.database.Holds (smallStore 0).depot.table.text
      undatedTable :=
  Database.holds_iff.mpr ⟨by decide, by decide⟩

theorem expire_reported_undated :
    ∃ (p : Nat × Database) (left : Table) (descriptor : Descriptor),
      (smallStore 0).depot.expiry "b" 1 undatedScene = .ok p
        ∧ (∀ r ∈ undatedTable.records, r ∈ left.records)
        ∧ ((smallStore 0).depot.describe ⟨"b", "n"⟩
            ((smallStore 0).depot.expire "b" 1 undatedScene).scene).result
          = .ok (some descriptor)
        ∧ ∃ r, left.newest? ⟨"b", "n"⟩ = some r ∧ r.modified = none
          ∧ r.created < cutoff undatedScene.now 1 := by
  have hdel : (smallStore 0).depot.expiry "b" 1 undatedScene
      = .ok (0, undatedScene.database) := rfl
  obtain ⟨left, -, hmem, -, hreported⟩ :=
    expire_reported undatedScene_holds "b" 1 hdel
  refine ⟨_, left, _, hdel, fun r hr => (hmem r).mpr ⟨hr, ?_⟩, rfl, ?_⟩
  · rw [List.mem_singleton.mp hr]
    simp
  · exact (hreported "n" _ _ rfl rfl rfl).mp (by decide)

/-- After an expiry of one day a record is reported that was created, and
is reported as last changed, two days before. -/
theorem expired_and_reported :
    ∃ descriptor,
      ((smallStore 0).depot.expiry "b" 1 undatedScene).isOk = true
        ∧ ((smallStore 0).depot.describe ⟨"b", "n"⟩
            ((smallStore 0).depot.expire "b" 1 undatedScene).scene).result
          = .ok (some descriptor)
        ∧ descriptor.lastModified.millis < cutoff undatedScene.now 1 :=
  ⟨_, rfl, rfl, by decide⟩

end Depot

end FileDepot
