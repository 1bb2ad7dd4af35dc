/-
The rows of a table that only depots have written.

The records committed in a session are a ghost list: what its steps have
written, in order, each with the step. The table is a part of that list
at every moment, in the same order, so whatever is true of all that is
ever written is true of the table, and the ids of the list speak for
the ids of the table through all deletions. `Rows` is the invariant;
that no id is above the highest the table remembers is the part that
carries the rest.

# What cannot happen

A record that a step has written knows the size of its payload and has
metadata that can be read. So a transfer of it has no fault, and a
description of it fails only where the clock was out of range.
-/
import FileDepot.Proofs.Serving
import FileDepot.Proofs.Session.Written

namespace FileDepot

variable {db : Database} {name : String} {t : Table} {s : Step}
  {past : List (Step × Database)}

-- ========================================================== commits

/-- The records that the steps of a trace have written into a table, in
order, each with the step. -/
def commits (name : String) (trace : List (Step × Database)) :
    List (Step × Record) :=
  trace.flatMap fun p => (p.1.written p.2 name).map fun r => (p.1, r)

/-- The commits of a further step follow those before. -/
theorem commits_append (name : String) (past : List (Step × Database))
    (s : Step) (db : Database) :
    commits name (past ++ [(s, db)])
      = commits name past ++ (s.written db name).map fun r => (s, r) := by
  unfold commits
  rw [List.flatMap_append, List.flatMap_cons, List.flatMap_nil,
    List.append_nil]

/-- A step that writes nothing adds no commit. -/
theorem commits_of_written_nil (h : s.written db name = []) :
    commits name (past ++ [(s, db)]) = commits name past := by
  rw [commits_append, h, List.map_nil, List.append_nil]

/-- A step that writes a record adds its commit. -/
theorem commits_of_written {r : Record} (h : s.written db name = [r]) :
    commits name (past ++ [(s, db)]) = commits name past ++ [(s, r)] := by
  rw [commits_append, h, List.map_cons, List.map_nil]

-- ======================================================== invariant

/-- A table after some steps, and the records they have committed to
it. -/
structure Rows (name : String) (past : List (Step × Database))
    (db : Database) (t : Table) : Prop where
  holds : db.Holds name t
  numbered : t.Numbered
  /-- The table is a part of what was committed, in the same order. -/
  part : t.records.Sublist ((commits name past).map Prod.snd)
  wrote : ∀ c ∈ commits name past, c.1.Wrote c.2
  positive : ∀ c ∈ commits name past, 0 < c.2.id
  ascending : (commits name past).Pairwise fun c e => c.2.id < e.2.id
  bounded : ∀ c ∈ commits name past, c.2.id ≤ t.highest
  /-- Every store that succeeded has committed one record. -/
  each : ∀ p ∈ past, p.1.isOn name → ∀ l, p.1.StoresAt p.2 l →
    ∃ r, p.1.written p.2 name = [r] ∧ r.location = l
  /-- Nothing else has. -/
  only : ∀ p ∈ past, p.1.written p.2 name ≠ [] →
    p.1.isOn name ∧ ∃ l, p.1.StoresAt p.2 l

namespace Rows

/-- A table that has just been provisioned has no rows, and none were
committed. -/
theorem start (h : db.IsNew name) :
    Rows name [] db (Database.newTable name) where
  holds := h.holds
  numbered := Table.Numbered.of_nil rfl
  part := List.Sublist.refl _
  wrote := by intro c hc; cases hc
  positive := by intro c hc; cases hc
  ascending := List.Pairwise.nil
  bounded := by intro c hc; cases hc
  each := by intro p hp; cases hp
  only := by intro p hp; cases hp

/-- The invariant is kept by a step that keeps a part of the table and
writes nothing. -/
theorem shrink {t' : Table} (h : Rows name past db t)
    (h' : (s.after db).Holds name t') (ht' : t'.Numbered)
    (hsub : t'.records.Sublist t.records) (hhigh : t'.highest = t.highest)
    (hnot : s.isOn name → ∀ l, ¬s.StoresAt db l) :
    Rows name (past ++ [(s, db)]) (s.after db) t' := by
  have hwritten := s.written_of_sublist h.holds h' hsub
  have hsame : commits name (past ++ [(s, db)]) = commits name past :=
    commits_of_written_nil hwritten
  refine
    { holds := h'
      numbered := ht'
      part := by rw [hsame]; exact hsub.trans h.part
      wrote := by rw [hsame]; exact h.wrote
      positive := by rw [hsame]; exact h.positive
      ascending := by rw [hsame]; exact h.ascending
      bounded := by rw [hsame, hhigh]; exact h.bounded
      each := forall_mem_concat h.each ?_
      only := forall_mem_concat h.only ?_ }
  · intro hon l hstores
    exact absurd hstores (hnot hon l)
  · intro hne
    exact absurd hwritten hne

/-- The invariant is kept by a store that succeeds. -/
theorem grow {t' : Table} {l : Location} {file : String} {draft : Draft}
    {rest : List Record} (h : Rows name past db t)
    (h' : (s.after db).Holds name t') (ht' : t'.Numbered)
    (hon : s.isOn name) (hstores : s.StoresAt db l)
    (hask : s.request = .store l file)
    (hread : s.depot.draft (s.scene db) l file = .ok draft)
    (hsub : rest.Sublist t.records)
    (hrec : t'.records = rest ++ [⟨draft, t.nextId⟩])
    (hhigh : t'.highest = t.nextId) :
    Rows name (past ++ [(s, db)]) (s.after db) t' := by
  have hwritten := s.written_of_append h.holds h.numbered h' hsub hrec
  have hmore : commits name (past ++ [(s, db)])
      = commits name past ++ [(s, ⟨draft, t.nextId⟩)] :=
    commits_of_written hwritten
  have hlt := t.highest_lt_nextId
  have hwrote := s.wrote_of_draft hask hread t.nextId
  have hlocation : (⟨draft, t.nextId⟩ : Record).location = l := by
    obtain ⟨file', hask', -⟩ := hwrote.source
    rw [hask] at hask'
    injection hask' with hl
    exact hl.symm
  have hall : ∀ {P : Step × Record → Prop},
      (∀ c ∈ commits name past, P c) → P (s, ⟨draft, t.nextId⟩) →
      ∀ c ∈ commits name (past ++ [(s, db)]), P c := by
    intro P hold hnew c hc
    rw [hmore] at hc
    rcases List.mem_append.mp hc with hc | hc
    · exact hold c hc
    · rw [List.mem_singleton.mp hc]
      exact hnew
  refine
    { holds := h'
      numbered := ht'
      part := ?_
      wrote := hall h.wrote hwrote
      positive := hall h.positive t.nextId_pos
      ascending := ?_
      bounded := hall ?_ (Int.le_of_eq hhigh.symm)
      each := forall_mem_concat h.each ?_
      only := forall_mem_concat h.only fun _ => ⟨hon, l, hstores⟩ }
  · rw [hmore, hrec, List.map_append, List.map_cons, List.map_nil]
    exact (hsub.trans h.part).append (List.Sublist.refl _)
  · rw [hmore, List.pairwise_append]
    refine ⟨h.ascending, List.pairwise_singleton .., ?_⟩
    intro c hc e he
    have hle := h.bounded c hc
    rw [List.mem_singleton.mp he]
    show c.2.id < t.nextId
    omega
  · intro c hc
    have hle := h.bounded c hc
    rw [hhigh]
    omega
  · intro _ k hk
    exact ⟨_, hwritten, hlocation.trans (hk.location_eq hask).symm⟩

/-- The invariant is kept by every step, on whatever table it works. -/
theorem step (h : Rows name past db t) (s : Step) :
    ∃ t', Rows name (past ++ [(s, db)]) (s.after db) t' := by
  by_cases hon : s.isOn name
  · obtain ⟨t', h', he⟩ := s.effect h.holds hon
    have hsees := s.sees_numbered h.numbered
    have ht' := he.numbered hsees
    rcases he.kept hsees with
      ⟨hsub, hhigh, hnot⟩
        | ⟨l, file, draft, rest, hask, hstores, hread, hsub, hrec, hhigh⟩
    · exact ⟨t', h.shrink h' ht' hsub hhigh fun _ => hnot⟩
    · exact ⟨t', h.grow h' ht' hon hstores hask hread hsub hrec hhigh⟩
  · refine ⟨t, h.shrink (s.after_holds_of_ne h.holds hon) h.numbered
      (List.Sublist.refl _) rfl ?_⟩
    intro hon'
    exact absurd hon' hon

/-- The invariant holds after every session on a table that has just
been provisioned. -/
theorem session (h : db.IsNew name) (steps : List Step) :
    ∃ t, Rows name (trace db steps) (session db steps) t := by
  refine session_induction
    (P := fun past now => ∃ t, Rows name past now t) ?_ ?_ steps
  · exact ⟨_, start h⟩
  · intro past now s hrows
    obtain ⟨t, ht⟩ := hrows
    exact ht.step s

-- ===================================================== what follows

/-- A row is one of the commits. -/
theorem committed (h : Rows name past db t) {r : Record}
    (hr : r ∈ t.records) : ∃ s, (s, r) ∈ commits name past := by
  obtain ⟨⟨s, r'⟩, hc, rfl⟩ := List.mem_map.mp (h.part.subset hr)
  exact ⟨s, hc⟩

/-- A transfer of a row has no fault. -/
theorem send_complete (h : Rows name past db t) {r : Record}
    (hr : r ∈ t.records) (chunkBytes : Nat) :
    r.send chunkBytes = ⟨r.data, none⟩ := by
  obtain ⟨s, hc⟩ := h.committed hr
  exact Record.send_complete (h.wrote _ hc).length chunkBytes

/-- A commit with the clock in range is described. -/
theorem descriptor_ok (h : Rows name past db t)
    (hclock : ∀ c ∈ commits name past, Calendar.InRange c.1.now)
    {r : Record} (hr : r ∈ t.records) :
    ∃ descriptor, r.toDraft.descriptor = .ok descriptor := by
  obtain ⟨s, hc⟩ := h.committed hr
  have hwrote := h.wrote _ hc
  have hrange := hclock _ hc
  obtain ⟨file, -, -, hmeta⟩ := hwrote.source
  have htime : r.toDraft.modifiedMillis = s.now := by
    unfold Draft.modifiedMillis
    rw [hwrote.times, ← hwrote.clock]
    rfl
  exact ⟨_, Draft.descriptor_ok hwrote.length (by rw [htime]; exact hrange)
    hmeta⟩

end Rows

/-- The rows of a table that only depots have written. Every row was
committed by a step, and every commit is a whole record of what its
step stored; each store that succeeded committed one, and no other step
did. The ids of the
commits are positive and ascend in the order of the commits, so none is
ever given out again, and the rows stand in that order. A row is always
sent whole; and as long as the commits were made with the clock in
range, every location can be described. -/
theorem session_rows (hnew : db.IsNew name) (steps : List Step) :
    ∃ t, (session db steps).Holds name t
      ∧ t.records.Sublist ((commits name (trace db steps)).map Prod.snd)
      ∧ (∀ c ∈ commits name (trace db steps), c.1.Wrote c.2)
      ∧ (∀ p ∈ trace db steps, p.1.isOn name →
          ∀ l, p.1.StoresAt p.2 l →
          ∃ r, p.1.written p.2 name = [r] ∧ r.location = l)
      ∧ (∀ p ∈ trace db steps, p.1.written p.2 name ≠ [] →
          p.1.isOn name ∧ ∃ l, p.1.StoresAt p.2 l)
      ∧ (∀ c ∈ commits name (trace db steps), 0 < c.2.id)
      ∧ (commits name (trace db steps)).Pairwise
          (fun c e => c.2.id < e.2.id)
      ∧ (∀ r ∈ t.records, ∀ chunkBytes,
          (r.send chunkBytes).fault = none)
      ∧ ((∀ c ∈ commits name (trace db steps),
            Calendar.InRange c.1.now) →
          ∀ l, ∃ found, (session db steps).Answers name l (.ok found)
            ((t.newest? l).map fun r => r.data)) := by
  obtain ⟨t, h⟩ := Rows.session hnew steps
  refine ⟨t, h.holds, h.part, h.wrote, h.each, h.only, h.positive,
    h.ascending, ?_, ?_⟩
  · intro r hr chunkBytes
    rw [h.send_complete hr]
  · intro hclock l
    have hlen : ∀ r ∈ t.newest? l, r.length = r.data.length := by
      intro r hr
      obtain ⟨s, hc⟩ := h.committed (h.numbered.newest?_mem hr).1
      exact (h.wrote _ hc).length
    have hanswers := h.holds.answers l hlen
    cases hnew : t.newest? l with
    | none =>
        rw [hnew] at hanswers
        exact ⟨none, hanswers⟩
    | some r =>
        obtain ⟨descriptor, hd⟩ := h.descriptor_ok hclock (h.numbered.newest?_mem hnew).1
        rw [hnew] at hanswers
        rw [foundDescriptor_some hd] at hanswers
        exact ⟨some descriptor, hanswers⟩

/-- Two stores and an expiry of everything: both records were committed,
the ids one and two are spent, and no row is left. -/
theorem session_rows_small :
    ∃ t, (session smallDatabase
          [smallStore 10, smallStore 20,
            { smallStore 100000000 with
              request := .expire "b" 1 }]).Holds "t" t
      ∧ t.records.Sublist ((commits "t" (trace smallDatabase
          [smallStore 10, smallStore 20,
            { smallStore 100000000 with
              request := .expire "b" 1 }])).map Prod.snd)
      ∧ (commits "t" (trace smallDatabase
          [smallStore 10, smallStore 20,
            { smallStore 100000000 with
              request := .expire "b" 1 }])).map (fun c => c.2.id)
          = [1, 2] := by
  obtain ⟨t, hheld, hpart, -⟩ :=
    session_rows smallDatabase_isNew
      [smallStore 10, smallStore 20,
        { smallStore 100000000 with request := .expire "b" 1 }]
  exact ⟨t, hheld, hpart, by decide +kernel⟩

end FileDepot
