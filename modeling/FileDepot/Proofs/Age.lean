/-
Tables written by a clock that never ran back.

In such a table a record with a higher id is not older. This is what
makes an expiry safe where several records stand at one location: the
expired ones are the first of them, so a sweep either leaves the newest
record or takes all, and never uncovers an older one
(`newest?_sweep`).
-/
import FileDepot.Proofs.Table

namespace FileDepot.Table

variable {t : Table} {times : List Int}

-- ======================================================= timed tables

/-- The records are whole and were created, and last changed, at some of
the times, none before one with a lower id. -/
structure Timed (t : Table) (times : List Int) : Prop where
  dated : ∀ r ∈ t.records, r.modified = some r.created
  ordered : t.records.Pairwise fun r s => r.created ≤ s.created
  whole : ∀ r ∈ t.records, r.length = r.data.length
  read : ∀ r ∈ t.records, r.created ∈ times

namespace Timed

/-- A table without records is timed. -/
theorem of_nil (h : t.records = []) (times : List Int) : t.Timed times where
  dated := by
    intro r hr
    rw [h] at hr
    cases hr
  ordered := by rw [h]; exact List.Pairwise.nil
  whole := by
    intro r hr
    rw [h] at hr
    cases hr
  read := by
    intro r hr
    rw [h] at hr
    cases hr

/-- A table stays timed when there are more times. -/
theorem more (h : t.Timed times) (later : List Int) :
    t.Timed (times ++ later) where
  dated := h.dated
  ordered := h.ordered
  whole := h.whole
  read := fun r hr => List.mem_append_left _ (h.read r hr)

/-- A table stays timed when records are dropped. -/
theorem drop (h : t.Timed times) (picked : Record → Bool) :
    (t.drop picked).Timed times where
  dated := fun r hr => h.dated r (List.mem_filter.mp hr).1
  ordered := h.ordered.sublist List.filter_sublist
  whole := fun r hr => h.whole r (List.mem_filter.mp hr).1
  read := fun r hr => h.read r (List.mem_filter.mp hr).1

/-- A table stays timed when a whole record is added at a time not
before any of the others. -/
theorem append (h : t.Timed times) (ht : t.Numbered) {d : Draft}
    (hd : d.modified = some d.created) (hlen : d.length = d.data.length)
    (hlast : ∀ time ∈ times, time ≤ d.created) :
    (t.append d).Timed (times ++ [d.created]) where
  dated := by
    intro r hr
    rw [ht.records_append d] at hr
    rcases List.mem_append.mp hr with hr | hr
    · exact h.dated r hr
    · rw [List.mem_singleton.mp hr]
      exact hd
  ordered := by
    rw [ht.records_append d, List.pairwise_append]
    refine ⟨h.ordered, List.pairwise_singleton .., ?_⟩
    intro r hr s hs
    rw [List.mem_singleton.mp hs]
    exact hlast r.created (h.read r hr)
  whole := by
    intro r hr
    rw [ht.records_append d] at hr
    rcases List.mem_append.mp hr with hr | hr
    · exact h.whole r hr
    · rw [List.mem_singleton.mp hr]
      exact hlen
  read := by
    intro r hr
    rw [ht.records_append d] at hr
    rcases List.mem_append.mp hr with hr | hr
    · exact List.mem_append_left _ (h.read r hr)
    · rw [List.mem_singleton.mp hr]
      exact List.mem_append_right _ (List.mem_singleton_self _)

end Timed

-- ============================================================= sweeps

/-- A record that was last changed when it was created is expired when
it is in the bucket and was created before the cutoff. -/
theorem isExpired_of_dated {d : Draft} (hd : d.modified = some d.created)
    (bucket : String) (limit : Int) :
    d.isExpired bucket limit
      = (d.bucket == bucket && decide (d.created < limit)) := by
  unfold Draft.isExpired
  rw [hd]
  rfl

/-- A record at the location of an expired one that is not younger is
expired as well. -/
theorem Timed.isExpired_of_le (h : t.Timed times) {r s : Record}
    {bucket : String} {limit : Int} (hr : r ∈ t.records)
    (hs : s ∈ t.records) (hloc : s.location = r.location)
    (hle : s.created ≤ r.created)
    (hexpired : r.toDraft.isExpired bucket limit = true) :
    s.toDraft.isExpired bucket limit = true := by
  have hbucket : s.bucket = r.bucket := congrArg Location.bucket hloc
  rw [isExpired_of_dated (h.dated r hr), Bool.and_eq_true,
    decide_eq_true_iff] at hexpired
  rw [isExpired_of_dated (h.dated s hs), Bool.and_eq_true,
    decide_eq_true_iff, hbucket]
  exact ⟨hexpired.1, by omega⟩

/-- A sweep takes the newest record of a location when that is expired,
and then nothing is left there; else the newest record stays. -/
theorem Timed.newest?_sweep (h : t.Timed times) (ht : t.Numbered)
    (bucket : String) (limit : Int) (l : Location) :
    (t.sweep bucket limit).newest? l
      = (t.newest? l).filter fun r =>
          !r.toDraft.isExpired bucket limit := by
  have hsweep : (t.sweep bucket limit).Numbered := ht.drop _
  have hat : (t.recordsAt l).Pairwise fun r s => r.created ≤ s.created :=
    h.ordered.sublist List.filter_sublist
  rw [hsweep.newest?_eq, ht.newest?_eq, t.recordsAt_sweep]
  rcases List.eq_nil_or_concat (t.recordsAt l) with hnil | ⟨rest, r, hr⟩
  · rw [hnil]
    rfl
  · have hmem : ∀ s ∈ rest ++ [r], s ∈ t.records ∧ s.location = l := by
      intro s hs
      rw [← List.concat_eq_append, ← hr] at hs
      exact mem_recordsAt.mp hs
    obtain ⟨hr₁, hr₂⟩ := hmem r (List.mem_append_right _ (by simp))
    rw [hr, List.concat_eq_append] at hat ⊢
    rw [List.getLast?_concat, Option.filter_some, List.filter_append]
    cases hexpired : r.toDraft.isExpired bucket limit with
    | false =>
        rw [List.filter_cons_of_pos (by rw [hexpired]; rfl),
          List.filter_nil, List.getLast?_concat]
        rfl
    | true =>
        -- all before the newest are not younger, hence expired too
        have hrest : rest.filter
            (fun s => !s.toDraft.isExpired bucket limit) = [] := by
          rw [List.filter_eq_nil_iff]
          intro s hs
          obtain ⟨hs₁, hs₂⟩ := hmem s (List.mem_append_left _ hs)
          have hle := (List.pairwise_append.mp hat).2.2 s hs r (by simp)
          rw [h.isExpired_of_le hr₁ hs₁ (hs₂.trans hr₂.symm) hle hexpired]
          simp
        rw [hrest, List.filter_cons_of_neg (by rw [hexpired]; simp)]
        rfl

end FileDepot.Table
