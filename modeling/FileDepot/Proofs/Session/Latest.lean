/-
Content that was superseded never comes back, although deletions may
fail and leave any number of records at one location.

For every location the trace explains what is served (`Explained`): the
record written by the last store there that succeeded, as long as no
step since has taken it away, and nothing where one has or where there
was no such store. The explanation is followed step by step, so it
holds at every moment of a session.

# Why old records stay hidden

The newest record hides the others at its location. Two things take it
away. A store deletes all records of the location at once. An expiry
deletes the newest only when it is too old, and then, as the clock has
never run back, all others there are too old as well
(`Table.Timed.newest?_sweep`). This is the only place where the clock
matters.
-/
import FileDepot.Proofs.Serving
import FileDepot.Proofs.Session.Written

namespace FileDepot

variable {db : Database} {name : String} {t t' : Table} {s : Step}
  {l : Location} {r : Record} {past : List (Step × Database)}

-- ==================================================== clock readings

/-- The reading of the clock that a step takes for a record: a store
takes one once it has read its file. -/
def Step.reading (s : Step) (db : Database) : Option Int :=
  match s.request with
  | .store l file =>
    if (s.depot.draft (s.scene db) l file).isOk then some s.now else none
  | _ => none

/-- The readings of the clock taken for records, in order. -/
def readings (trace : List (Step × Database)) : List Int :=
  trace.filterMap fun p => p.1.reading p.2

/-- The readings up to a further step. -/
theorem readings_append (past : List (Step × Database)) (s : Step)
    (db : Database) :
    readings (past ++ [(s, db)])
      = readings past ++ (s.reading db).toList := by
  unfold readings
  rw [List.filterMap_append]
  cases h : s.reading db with
  | none => simp [h]
  | some now => simp [h]

/-- A store that makes a draft takes a reading. -/
theorem Step.reading_of_draft {file : String} {draft : Draft}
    (hask : s.request = .store l file)
    (hread : s.depot.draft (s.scene db) l file = .ok draft) :
    s.reading db = some s.now := by
  unfold Step.reading
  rw [hask]
  dsimp only
  rw [hread]
  rfl

-- ============================================== what happens to records

/-- The step takes a record away: an expiry that finds it too old, or a
store at its location, in two statements, that deletes it and then fails
to insert. -/
def Step.Removes (s : Step) (db : Database) (r : Record) : Prop :=
  s.deletionFails db = false
    ∧ ((∃ bucket days, s.request = .expire bucket days
          ∧ r.toDraft.isExpired bucket (cutoff s.now days) = true)
      ∨ ∃ file f, s.request = .store r.location file
          ∧ s.depot.options.atomicOverwrite = false
          ∧ (s.play db).result = .error f ∧ f.isRemote = true)

namespace Step.Removes

/-- A step that only looks takes nothing away. -/
theorem not_looks (hask : s.request.looks = true) : ¬s.Removes db r := by
  intro hremoves
  rcases hremoves with ⟨-, ⟨bucket, days, h, -⟩ | ⟨file, f, h, -⟩⟩
  · rw [h] at hask
    cases hask
  · rw [h] at hask
    cases hask

/-- A step whose deletion fails takes nothing away. -/
theorem not_fails (hdel : s.deletionFails db = true) :
    ¬s.Removes db r := by
  intro hremoves
  obtain ⟨h, -⟩ := hremoves
  rw [hdel] at h
  cases h

/-- A store that succeeds takes nothing away but puts another in its
place. -/
theorem not_stored {file : String} (hask : s.request = .store l file)
    (hresult : (s.play db).result = .ok ()) : ¬s.Removes db r := by
  intro hremoves
  rcases hremoves with
    ⟨-, ⟨bucket, days, h, -⟩ | ⟨file', f, -, -, h, -⟩⟩
  · rw [hask] at h
    cases h
  · rw [hresult] at h
    cases h

/-- A store takes nothing away from another location. -/
theorem not_elsewhere {file : String} (hask : s.request = .store l file)
    (hr : r.location ≠ l) : ¬s.Removes db r := by
  intro hremoves
  rcases hremoves with ⟨-, ⟨bucket, days, h, -⟩ | ⟨file', f, h, -⟩⟩
  · rw [hask] at h
    cases h
  · rw [hask] at h
    injection h with h
    exact hr h.symm

/-- A store that is refused takes nothing away. -/
theorem not_refused {file : String} {f : Failure}
    (hask : s.request = .store l file)
    (hresult : (s.play db).result = .error f)
    (hwhy : s.depot.options.atomicOverwrite = true
      ∨ f.isLocal = true ∨ s.deletionFails db = true) :
    ¬s.Removes db r := by
  intro hremoves
  rcases hremoves with
    ⟨hdel, ⟨bucket, days, h, -⟩ | ⟨file', g, -, hmode, hg, hremote⟩⟩
  · rw [hask] at h
    cases h
  · rw [hresult] at hg
    injection hg with hg
    subst hg
    rcases hwhy with hatomic | hlocal | hfails
    · rw [hmode] at hatomic
      cases hatomic
    · rw [Failure.isLocal_of_isRemote hremote] at hlocal
      cases hlocal
    · rw [hdel] at hfails
      cases hfails

/-- An expiry leaves what is not too old. -/
theorem not_expired {bucket : String} {days : Nat}
    (hask : s.request = .expire bucket days)
    (hr : r.toDraft.isExpired bucket (cutoff s.now days) = false) :
    ¬s.Removes db r := by
  intro hremoves
  rcases hremoves with
    ⟨-, ⟨bucket', days', h, hexpired⟩ | ⟨file, f, h, -⟩⟩
  · rw [hask] at h
    injection h with hbucket hdays
    rw [← hbucket, ← hdays, hr] at hexpired
    cases hexpired
  · rw [hask] at h
    cases h

end Step.Removes

/-- The record is what the last store at a location that succeeded has
written, and these are the steps since. -/
def LastStored (name : String) (trace : List (Step × Database))
    (l : Location) (r : Record) (since : List (Step × Database)) : Prop :=
  (∃ before p, trace = before ++ p :: since ∧ p.1.StoresAt p.2 l
      ∧ p.1.written p.2 name = [r] ∧ p.1.Wrote r)
    ∧ ∀ q ∈ since, ¬q.1.StoresAt q.2 l

/-- A trace explains what is served at a location. A record is what the
last store there has written and no step since has taken away; nothing
is served only where there was no such store or its record was taken
away since. -/
def Explained (name : String) (trace : List (Step × Database))
    (l : Location) (found : Option Record) : Prop :=
  match found with
  | some r => ∃ since, LastStored name trace l r since
      ∧ ∀ q ∈ since, ¬q.1.Removes q.2 r
  | none => (∀ p ∈ trace, ¬p.1.StoresAt p.2 l)
      ∨ ∃ r since, LastStored name trace l r since
        ∧ ∃ q ∈ since, q.1.Removes q.2 r

/-- The last store remains the last through any other step. -/
theorem LastStored.concat {since : List (Step × Database)}
    (h : LastStored name past l r since) (hnot : ¬s.StoresAt db l) :
    LastStored name (past ++ [(s, db)]) l r (since ++ [(s, db)]) := by
  obtain ⟨⟨before, p, hpast, hstores, hwritten⟩, hsince⟩ := h
  refine ⟨⟨before, p, ?_, hstores, hwritten⟩,
    forall_mem_concat hsince hnot⟩
  rw [hpast, List.append_assoc, List.cons_append]

namespace Explained

variable {found : Option Record}

/-- A store that succeeds explains its record. -/
theorem stored (hstores : s.StoresAt db l)
    (hwritten : s.written db name = [r]) (hwrote : s.Wrote r) :
    Explained name (past ++ [(s, db)]) l (some r) := by
  refine ⟨[], ⟨⟨past, (s, db), rfl, hstores, hwritten, hwrote⟩, ?_⟩, ?_⟩
  · intro q hq
    cases hq
  · intro q hq
    cases hq

/-- A step that neither stores at the location nor takes its record away
changes no explanation. -/
theorem idle (h : Explained name past l found)
    (hnot : ¬s.StoresAt db l) (hkeep : ∀ r ∈ found, ¬s.Removes db r) :
    Explained name (past ++ [(s, db)]) l found := by
  cases found with
  | some r =>
      obtain ⟨since, hlast, hsince⟩ := h
      exact ⟨_, hlast.concat hnot,
        forall_mem_concat hsince (hkeep r rfl)⟩
  | none =>
      rcases h with hnever | ⟨r, since, hlast, q, hq, hremoves⟩
      · exact .inl (forall_mem_concat hnever hnot)
      · exact .inr ⟨r, _, hlast.concat hnot, q,
          List.mem_append_left _ hq, hremoves⟩

/-- A step that takes the record of a location away explains that
nothing is served there. -/
theorem removed (h : Explained name past l (some r))
    (hnot : ¬s.StoresAt db l) (hremoves : s.Removes db r) :
    Explained name (past ++ [(s, db)]) l none := by
  obtain ⟨since, hlast, -⟩ := h
  exact .inr ⟨r, _, hlast.concat hnot, (s, db),
    List.mem_append_right _ (List.mem_singleton_self _), hremoves⟩

end Explained

-- ======================================================== invariant

/-- A table after some steps, with an explanation for what is newest at
each location. -/
structure Latest (name : String) (past : List (Step × Database))
    (db : Database) (t : Table) : Prop where
  holds : db.Holds name t
  numbered : t.Numbered
  timed : t.Timed (readings past)
  explained : ∀ l, Explained name past l (t.newest? l)

namespace Latest

/-- A table without records serves nothing, and nothing was stored. -/
theorem start (h : db.Holds name t) (hempty : t.records = []) :
    Latest name [] db t where
  holds := h
  numbered := .of_nil hempty
  timed := .of_nil hempty []
  explained := by
    intro l
    have hnone : t.newest? l = none := by
      unfold Table.newest?
      rw [hempty]
      rfl
    rw [hnone]
    apply Or.inl
    intro p hp
    cases hp

/-- What is served at a location stays explained when a store succeeds
there or elsewhere. -/
theorem explained_stored {u : Table} {file : String} {draft : Draft}
    (h : Latest name past db t) (hu : u.Numbered)
    (hsame : ∀ k, k ≠ l → u.newest? k = t.newest? k)
    (hask : s.request = .store l file)
    (hresult : (s.play db).result = .ok ())
    (hread : s.depot.draft (s.scene db) l file = .ok draft)
    (hwritten : s.written db name = [⟨draft, u.nextId⟩])
    (k : Location) :
    Explained name (past ++ [(s, db)]) k ((u.append draft).newest? k) := by
  have hlocation : draft.location = l := by
    obtain ⟨data, -, -, rfl⟩ := Depot.draft_ok hread
    rfl
  by_cases hk : k = l
  · subst hk
    rw [hu.newest?_append_self hlocation]
    exact .stored ⟨file, hask, hresult⟩ hwritten
      (s.wrote_of_draft hask hread _)
  · have hne : draft.location ≠ k := by
      rw [hlocation]
      exact fun he => hk he.symm
    rw [hu.newest?_append_of_ne hne, hsame k hk]
    apply (h.explained k).idle
    · intro hstores
      exact hk (hstores.location_eq hask)
    · intro r _
      exact Step.Removes.not_stored hask hresult

/-- What is served at a location stays explained through a step on the
table. -/
theorem explained_step (h : Latest name past db t)
    (h' : (s.after db).Holds name t')
    (he : Effect s db (s.sees t) t') (k : Location) :
    Explained name (past ++ [(s, db)]) k (t'.newest? k) := by
  have hk := h.explained k
  have hsees := s.sees_numbered h.numbered
  cases he with
  | looked hask =>
      exact hk.idle (Step.StoresAt.not_looks hask)
        fun r _ => Step.Removes.not_looks hask
  | refused l file f hask hresult hwhy =>
      exact hk.idle (Step.StoresAt.not_error hresult)
        fun r _ => Step.Removes.not_refused hask hresult hwhy
  | unswept bucket days hask hdel =>
      exact hk.idle (Step.StoresAt.not_expire hask)
        fun r _ => Step.Removes.not_fails hdel
  | replaced l file draft hask hresult hread hdel =>
      have hclear : ((s.sees t).clear l).Numbered := hsees.drop _
      have hwritten := s.written_of_append h.holds h.numbered h'
        List.filter_sublist (hclear.records_append draft)
      refine h.explained_stored hclear ?_ hask hresult hread hwritten k
      intro k hk
      exact hsees.newest?_clear_of_ne hk
  | stacked l file draft hask hresult hread hdel =>
      have hwritten := s.written_of_append h.holds h.numbered h'
        (List.Sublist.refl _) (hsees.records_append draft)
      exact h.explained_stored hsees (fun _ _ => rfl) hask hresult hread
        hwritten k
  | cleared l file f hask hresult hmode hf hdel =>
      have hnot : ¬s.StoresAt db k := Step.StoresAt.not_error hresult
      by_cases hkl : k = l
      · subst hkl
        rw [hsees.newest?_clear_self]
        cases hfound : t.newest? k with
        | none =>
            rw [hfound] at hk
            apply hk.idle hnot
            intro r hr
            cases hr
        | some r =>
            rw [hfound] at hk
            have hloc := (h.numbered.newest?_mem hfound).2
            rw [← hloc] at hask
            exact hk.removed hnot
              ⟨hdel, .inr ⟨file, f, hask, hmode, hresult, hf⟩⟩
      · rw [hsees.newest?_clear_of_ne hkl]
        refine hk.idle hnot fun r hr => ?_
        have hloc := (h.numbered.newest?_mem hr).2
        refine Step.Removes.not_elsewhere hask ?_
        rw [hloc]
        exact hkl
  | swept bucket days hask hdel =>
      have hnot : ¬s.StoresAt db k := Step.StoresAt.not_expire hask
      rw [(s.sees_timed h.timed).newest?_sweep hsees]
      change Explained name _ k ((t.newest? k).filter _)
      cases hfound : t.newest? k with
      | none =>
          rw [hfound] at hk
          apply hk.idle hnot
          intro r hr
          cases hr
      | some r =>
          rw [hfound] at hk
          rw [Option.filter_some]
          cases hr : r.toDraft.isExpired bucket (cutoff s.now days) with
          | true =>
              exact hk.removed hnot ⟨hdel, .inl ⟨bucket, days, hask, hr⟩⟩
          | false =>
              apply hk.idle hnot
              intro r' hr'
              cases hr'
              exact Step.Removes.not_expired hask hr

/-- A table stays timed through a step, with the reading that the step
may take. -/
theorem timed_step (h : Latest name past db t)
    (he : Effect s db (s.sees t) t')
    (hclock : (readings (past ++ [(s, db)])).Pairwise (· ≤ ·)) :
    t'.Timed (readings (past ++ [(s, db)])) := by
  rw [readings_append] at hclock ⊢
  have hsees := s.sees_numbered h.numbered
  have htimed : (s.sees t).Timed (readings past) := s.sees_timed h.timed
  -- a draft is not older than any record, as its reading is the last
  have happend : ∀ {u : Table} {l : Location} {file : String}
      {draft : Draft}, u.Numbered → u.Timed (readings past) →
      s.request = .store l file →
      s.depot.draft (s.scene db) l file = .ok draft →
      (u.append draft).Timed (readings past ++ (s.reading db).toList) := by
    intro u l file draft hu htimed hask hdraft
    have hreading := s.reading_of_draft hask hdraft
    obtain ⟨data, -, -, rfl⟩ := Depot.draft_ok hdraft
    rw [hreading] at hclock ⊢
    refine htimed.append hu rfl rfl fun time htime => ?_
    exact (List.pairwise_append.mp hclock).2.2 time htime s.now (by simp)
  cases he with
  | looked => exact htimed.more _
  | refused => exact htimed.more _
  | unswept => exact htimed.more _
  | cleared l => exact (htimed.drop _).more _
  | swept bucket days => exact (htimed.drop _).more _
  | replaced l file draft hask hresult hdraft =>
      exact happend (hsees.drop _) (htimed.drop _) hask hdraft
  | stacked l file draft hask hresult hdraft =>
      exact happend hsees htimed hask hdraft

/-- The invariant is kept by every step on the table, as long as the
clock does not run back. -/
theorem step (h : Latest name past db t) (hon : s.isOn name)
    (hclock : (readings (past ++ [(s, db)])).Pairwise (· ≤ ·)) :
    ∃ t', Latest name (past ++ [(s, db)]) (s.after db) t' := by
  obtain ⟨t', h', he⟩ := s.effect h.holds hon
  exact ⟨t',
    { holds := h'
      numbered := he.numbered (s.sees_numbered h.numbered)
      timed := h.timed_step he hclock
      explained := h.explained_step h' he }⟩

/-- The invariant holds after every session on a table that was empty,
if the clock never ran back. -/
theorem session (h : db.Holds name t) (hempty : t.records = [])
    (steps : List Step) (hon : ∀ s ∈ steps, s.isOn name)
    (hclock : (readings (trace db steps)).Pairwise (· ≤ ·)) :
    ∃ t, Latest name (trace db steps) (session db steps) t := by
  refine session_induction
    (P := fun past now => (∀ p ∈ past, p.1.isOn name) →
      (readings past).Pairwise (· ≤ ·) → ∃ t, Latest name past now t)
    ?_ ?_ steps (fun p hp => hon _ (mem_of_mem_trace hp)) hclock
  · exact fun _ _ => ⟨t, start h hempty⟩
  · intro past now s ih hon hclock
    have hbefore : (readings past).Pairwise (· ≤ ·) := by
      rw [readings_append] at hclock
      exact (List.pairwise_append.mp hclock).1
    obtain ⟨t, ht⟩ := ih
      (fun p hp => hon p (List.mem_append_left _ hp)) hbefore
    exact ht.step
      (hon (s, now) (List.mem_append_right _ (List.mem_singleton_self _)))
      hclock

/-- An expiry leaves the newest record of a location or nothing
there. -/
theorem newest?_expire {bucket : String} {days : Nat}
    (h : Latest name past db t) (hon : s.isOn name)
    (hask : s.request = .expire bucket days) :
    ∃ t', (s.after db).Holds name t'
      ∧ ∀ l, t'.newest? l = t.newest? l ∨ t'.newest? l = none := by
  obtain ⟨t', h', he⟩ := s.effect h.holds hon
  refine ⟨t', h', fun l => ?_⟩
  cases he with
  | looked => exact .inl rfl
  | refused => exact .inl rfl
  | unswept => exact .inl rfl
  | cleared l file f hask' => rw [hask] at hask'; cases hask'
  | replaced l file draft hask' => rw [hask] at hask'; cases hask'
  | stacked l file draft hask' => rw [hask] at hask'; cases hask'
  | swept bucket days =>
      rw [(s.sees_timed h.timed).newest?_sweep (s.sees_numbered h.numbered),
        show (s.sees t).newest? l = t.newest? l from rfl]
      cases t.newest? l with
      | none => exact .inl rfl
      | some r =>
          rw [Option.filter_some]
          split
          · exact .inl rfl
          · exact .inr rfl

/-- A store that succeeds and whose deletion does not fail leaves its
record alone at its location. -/
theorem recordsAt_stored (h : Latest name past db t) (hon : s.isOn name)
    (hstores : s.StoresAt db l) (hdel : s.deletionFails db = false) :
    ∃ t' r, (s.after db).Holds name t' ∧ t'.recordsAt l = [r]
      ∧ s.written db name = [r] := by
  have hsees := s.sees_numbered h.numbered
  obtain ⟨file, draft, hask, hread, hwritten⟩ :=
    s.written_of_storesAt h.holds h.numbered hon hstores
  obtain ⟨t', h', he⟩ := s.effect h.holds hon
  obtain ⟨file', hask', hok⟩ := hstores
  refine ⟨t', ⟨draft, t.nextId⟩, h', ?_, hwritten⟩
  cases he with
  | looked hlooks => rw [hask] at hlooks; cases hlooks
  | refused l file f hask hresult => rw [hok] at hresult; cases hresult
  | cleared l file f hask hresult => rw [hok] at hresult; cases hresult
  | unswept bucket days hask' => rw [hask] at hask'; cases hask'
  | swept bucket days hask' => rw [hask] at hask'; cases hask'
  | stacked k file draft hask hresult hread hfails =>
      rw [hdel] at hfails
      cases hfails
  | replaced k file'' draft' hask'' hresult hread' =>
      have hclear : ((s.sees t).clear k).Numbered := hsees.drop _
      rw [hask] at hask''
      injection hask'' with hl hfile
      subst hl hfile
      rw [hread] at hread'
      injection hread' with hdraft
      subst hdraft
      have hlocation : draft.location = l := by
        obtain ⟨data, -, -, rfl⟩ := Depot.draft_ok hread
        rfl
      rw [hclear.recordsAt_append_self hlocation, Table.recordsAt_clear_self]
      rfl

end Latest

/-- Superseded content never comes back. On a table that starts empty
and through any session on it in which the clock never ran back,
whatever deletions and insertions fail: what every depot serves at a
location is the newest record there, and the trace explains it. An
expiry leaves that record or nothing, never an older one; and a store
that succeeds and whose deletion does not fail leaves its record alone
at the location, whatever stood there. -/
theorem session_serves_latest (h : ∃ t, db.Holds name t ∧ t.records = [])
    (steps : List Step) (hon : ∀ s ∈ steps, s.isOn name)
    (hclock : (readings (trace db steps)).Pairwise (· ≤ ·)) :
    ∃ t, (session db steps).Holds name t
      ∧ (∀ l, Explained name (trace db steps) l (t.newest? l)
          ∧ (session db steps).Answers name l
              (foundDescriptor (t.newest? l))
              ((t.newest? l).map fun r => r.data))
      ∧ (∀ (s : Step) (bucket : String) (days : Nat), s.isOn name →
          s.request = .expire bucket days →
          ∃ t', (s.after (session db steps)).Holds name t'
            ∧ ∀ l, t'.newest? l = t.newest? l ∨ t'.newest? l = none)
      ∧ ∀ (s : Step) (l : Location), s.isOn name →
          s.StoresAt (session db steps) l →
          s.deletionFails (session db steps) = false →
          ∃ t' r, (s.after (session db steps)).Holds name t'
            ∧ t'.recordsAt l = [r]
            ∧ s.written (session db steps) name = [r] := by
  obtain ⟨t₀, hheld, hempty⟩ := h
  obtain ⟨t, h⟩ := Latest.session hheld hempty steps hon hclock
  refine ⟨t, h.holds, fun l => ⟨h.explained l, ?_⟩, ?_, ?_⟩
  · refine h.holds.answers l fun r hr => ?_
    exact h.timed.whole r (h.numbered.newest?_mem hr).1
  · intro s bucket days hon hask
    exact h.newest?_expire hon hask
  · intro s l hon hstores hdel
    exact h.recordsAt_stored hon hstores hdel

/-- A store whose deletion fails leaves two records at its location, and
the second is served. -/
theorem session_serves_latest_small :
    ∃ t, (session smallDatabase
          [smallStore 10, { smallStore 20 with blocksDeletes := true }]).Holds
            "t" t
      ∧ Explained "t" (trace smallDatabase
          [smallStore 10, { smallStore 20 with blocksDeletes := true }])
          ⟨"b", "n"⟩ (t.newest? ⟨"b", "n"⟩) := by
  obtain ⟨t, hheld, hexplained, -⟩ :=
    session_serves_latest ⟨_, smallDatabase_isNew.holds, rfl⟩
      [smallStore 10, { smallStore 20 with blocksDeletes := true }]
      (by decide) (by decide +kernel)
  exact ⟨t, hheld, (hexplained ⟨"b", "n"⟩).1⟩

end FileDepot
