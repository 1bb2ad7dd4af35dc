/-
Tables by themselves: the ids of their records, the records at one
location, and the two changes every operation is made of, dropping the
records that a test picks and adding one under the next id.

# The order of ids

`Numbered` is the ground fact about a table: its records stand in
ascending order of their ids and no id is above the highest the table
remembers. Dropping keeps it because a part of an ascending row
ascends; adding keeps it because the next id is above the highest. It
turns two searches into list ends: the next record goes to the end of
the row (`Numbered.records_append`), and the newest record at a location
is the last one there (`Numbered.newest?_eq`).
-/
import FileDepot.Database.Access

namespace FileDepot

-- ============================================================= names

/-- Two names are the same when they agree in lower case. -/
theorem sameName_iff {a b : String} :
    sameName a b = true ↔ Text.lowerAscii a = Text.lowerAscii b := by
  unfold sameName
  exact beq_iff_eq

/-- A name is the same as itself. -/
@[simp]
theorem sameName_self (a : String) : sameName a a = true :=
  sameName_iff.mpr rfl

/-- Names can be compared in either order. -/
theorem sameName_comm (a b : String) : sameName a b = sameName b a := by
  unfold sameName
  exact BEq.comm

/-- Names that are the same compare alike with every third name. -/
theorem sameName_congr {a b : String} (h : sameName a b = true)
    (c : String) : sameName a c = sameName b c := by
  unfold sameName
  rw [sameName_iff.mp h]

namespace Table

variable {t : Table}

-- ========================================================== records

/-- The records at a location, the oldest first. -/
def recordsAt (t : Table) (l : Location) : List Record :=
  t.records.filter fun r => r.location == l

/-- The table without the records at a location. -/
def clear (t : Table) (l : Location) : Table :=
  t.drop fun r => r.location == l

/-- The table without the expired records of a bucket. -/
def sweep (t : Table) (bucket : String) (limit : Int) : Table :=
  t.drop fun r => r.toDraft.isExpired bucket limit

/-- The table with a draft under the next id. -/
def append (t : Table) (d : Draft) : Table := t.add ⟨d, t.nextId⟩

/-- A record at a location is a record of the table that is there. -/
theorem mem_recordsAt {l : Location} {r : Record} :
    r ∈ t.recordsAt l ↔ r ∈ t.records ∧ r.location = l := by
  unfold recordsAt
  rw [List.mem_filter, beq_iff_eq]

@[simp]
theorem clear_records (t : Table) (l : Location) :
    (t.clear l).records = t.records.filter fun r => !(r.location == l) := rfl

@[simp]
theorem sweep_records (t : Table) (bucket : String) (limit : Int) :
    (t.sweep bucket limit).records
      = t.records.filter fun r => !r.toDraft.isExpired bucket limit := rfl

-- ====================================================== the next id

/-- The next id is positive. -/
theorem nextId_pos (t : Table) : 0 < t.nextId := by
  unfold nextId
  omega

/-- The next id is above the highest there ever was. -/
theorem highest_lt_nextId (t : Table) : t.highest < t.nextId := by
  unfold nextId
  omega

@[simp]
theorem append_highest (t : Table) (d : Draft) :
    (t.append d).highest = t.nextId := by
  have := t.highest_lt_nextId
  show max t.highest t.nextId = t.nextId
  omega

-- ================================================= the order of ids

/-- The ids of the records ascend, and none is above the highest. -/
structure Numbered (t : Table) : Prop where
  ascending : t.records.Pairwise fun r s => r.id < s.id
  bounded : ∀ r ∈ t.records, r.id ≤ t.highest

/-- A table without records is numbered. -/
theorem Numbered.of_nil (h : t.records = []) : t.Numbered where
  ascending := by rw [h]; exact List.Pairwise.nil
  bounded := by
    intro r hr
    rw [h] at hr
    cases hr

/-- A record among others is one more of them. -/
theorem insertSorted_perm (r : Record) (l : List Record) :
    (insertSorted r l).Perm (r :: l) := by
  induction l with
  | nil => exact .refl _
  | cons s rest ih =>
      unfold insertSorted
      split
      · exact .refl _
      · exact (ih.cons s).trans (.swap ..)

/-- A record above all others goes to the end. -/
theorem insertSorted_eq_append {r : Record} {l : List Record}
    (h : ∀ s ∈ l, s.id < r.id) : insertSorted r l = l ++ [r] := by
  induction l with
  | nil => rfl
  | cons s rest ih =>
      have hs : s.id < r.id := h s (List.mem_cons_self ..)
      have hrest := ih fun x hx => h x (List.mem_cons_of_mem _ hx)
      unfold insertSorted
      rw [if_neg (by omega), hrest, List.cons_append]

/-- A record that is added last stands last. -/
theorem Numbered.records_append (ht : t.Numbered) (d : Draft) :
    (t.append d).records = t.records ++ [⟨d, t.nextId⟩] := by
  refine insertSorted_eq_append fun s hs => ?_
  have hle := ht.bounded s hs
  have hlt := t.highest_lt_nextId
  show s.id < t.nextId
  omega

/-- A table stays numbered when records are dropped. -/
theorem Numbered.drop (ht : t.Numbered) (picked : Record → Bool) :
    (t.drop picked).Numbered where
  ascending := ht.ascending.sublist List.filter_sublist
  bounded := fun r hr => ht.bounded r (List.mem_filter.mp hr).1

/-- A table stays numbered when a record is added under the next id. -/
theorem Numbered.append (ht : t.Numbered) (d : Draft) :
    (t.append d).Numbered where
  ascending := by
    rw [ht.records_append d, List.pairwise_append]
    refine ⟨ht.ascending, List.pairwise_singleton .., ?_⟩
    intro r hr s hs
    have hle := ht.bounded r hr
    have hlt := t.highest_lt_nextId
    rw [List.mem_singleton] at hs
    subst hs
    show r.id < t.nextId
    omega
  bounded := by
    intro r hr
    have hlt := t.highest_lt_nextId
    rw [append_highest]
    rw [ht.records_append d] at hr
    rcases List.mem_append.mp hr with hr | hr
    · have hle := ht.bounded r hr
      omega
    · rw [List.mem_singleton] at hr
      subst hr
      exact Int.le_refl _

/-- No record has the next id yet. -/
theorem Numbered.nextId_fresh (ht : t.Numbered) (d : Draft) :
    (⟨d, t.nextId⟩ : Record) ∉ t.records := by
  intro hmem
  have hle : t.nextId ≤ t.highest := ht.bounded _ hmem
  have hlt := t.highest_lt_nextId
  omega

-- ======================================================= the newest

/-- Where ids ascend, the newest record is the last. -/
theorem newestOf_eq_getLast? {l : List Record}
    (h : l.Pairwise fun r s => r.id < s.id) : newestOf l = l.getLast? := by
  induction l with
  | nil => rfl
  | cons r rest ih =>
      obtain ⟨habove, hrest⟩ := List.pairwise_cons.mp h
      unfold newestOf
      rw [ih hrest]
      cases hlast : rest.getLast? with
      | none =>
          rw [List.getLast?_eq_none_iff.mp hlast]
          rfl
      | some s =>
          have hlt := habove s (List.mem_of_getLast? hlast)
          show (if s.id < r.id then some r else some s) = _
          rw [if_neg (by omega), List.getLast?_cons, hlast]
          rfl

/-- The newest record at a location is the last one there. -/
theorem Numbered.newest?_eq (ht : t.Numbered) (l : Location) :
    t.newest? l = (t.recordsAt l).getLast? :=
  newestOf_eq_getLast? (ht.ascending.sublist List.filter_sublist)

-- ============================================== locations and changes

/-- A cleared location holds nothing. -/
theorem recordsAt_clear_self (t : Table) (l : Location) :
    (t.clear l).recordsAt l = [] := by
  unfold recordsAt
  rw [clear_records, List.filter_filter, List.filter_eq_nil_iff]
  intro r _
  simp

/-- Clearing a location leaves every other one alone. -/
theorem recordsAt_clear_of_ne (t : Table) {l k : Location} (h : k ≠ l) :
    (t.clear l).recordsAt k = t.recordsAt k := by
  unfold recordsAt
  rw [clear_records, List.filter_filter]
  refine List.filter_congr fun r _ => ?_
  by_cases hr : r.location = k
  · simp [hr, h]
  · simp [hr]

/-- A sweep takes the expired records of a location. -/
theorem recordsAt_sweep (t : Table) (bucket : String) (limit : Int)
    (l : Location) :
    (t.sweep bucket limit).recordsAt l
      = (t.recordsAt l).filter fun r => !r.toDraft.isExpired bucket limit := by
  unfold recordsAt
  rw [sweep_records, List.filter_filter, List.filter_filter]
  refine List.filter_congr fun r _ => ?_
  rw [Bool.and_comm]

/-- An added record is the last at its own location. -/
theorem Numbered.recordsAt_append_self (ht : t.Numbered) {d : Draft}
    {l : Location} (h : d.location = l) :
    (t.append d).recordsAt l = t.recordsAt l ++ [⟨d, t.nextId⟩] := by
  unfold recordsAt
  rw [ht.records_append d, List.filter_append]
  congr 1
  simp [h]

/-- An added record is at no other location. -/
theorem Numbered.recordsAt_append_of_ne (ht : t.Numbered) {d : Draft}
    {l : Location} (h : d.location ≠ l) :
    (t.append d).recordsAt l = t.recordsAt l := by
  unfold recordsAt
  rw [ht.records_append d, List.filter_append]
  simp [h]

-- ============================================ the newest and changes

/-- The newest record at a location is there. -/
theorem Numbered.newest?_mem (ht : t.Numbered) {l : Location} {r : Record}
    (h : t.newest? l = some r) : r ∈ t.records ∧ r.location = l := by
  rw [ht.newest?_eq l] at h
  exact mem_recordsAt.mp (List.mem_of_getLast? h)

/-- Nothing is the newest at a cleared location. -/
theorem Numbered.newest?_clear_self (ht : t.Numbered) (l : Location) :
    (t.clear l).newest? l = none := by
  have hclear : (t.clear l).Numbered := ht.drop _
  rw [hclear.newest?_eq, recordsAt_clear_self]
  rfl

/-- Clearing a location leaves the newest record of every other one. -/
theorem Numbered.newest?_clear_of_ne (ht : t.Numbered) {l k : Location}
    (h : k ≠ l) : (t.clear l).newest? k = t.newest? k := by
  have hclear : (t.clear l).Numbered := ht.drop _
  rw [hclear.newest?_eq, ht.newest?_eq, recordsAt_clear_of_ne t h]

/-- An added record is the newest at its own location. -/
theorem Numbered.newest?_append_self (ht : t.Numbered) {d : Draft}
    {l : Location} (h : d.location = l) :
    (t.append d).newest? l = some ⟨d, t.nextId⟩ := by
  rw [(ht.append d).newest?_eq, ht.recordsAt_append_self h,
    List.getLast?_concat]

/-- An added record leaves the newest of every other location. -/
theorem Numbered.newest?_append_of_ne (ht : t.Numbered) {d : Draft}
    {l : Location} (h : d.location ≠ l) :
    (t.append d).newest? l = t.newest? l := by
  rw [(ht.append d).newest?_eq, ht.newest?_eq,
    ht.recordsAt_append_of_ne h]

end Table

end FileDepot
