/-
A table on which every deletion takes place mirrors a plain map from
locations to contents.

The map is kept beside the database by `Mirror.next`, from what a step
asks for and how it ended alone: a store that succeeds sets its
location, one in two statements that loses its insertion removes it,
an expiry removes what is too old, and nothing else does anything. The
table shows the map (`Shows`): at each location stands one record for
the content there and none where there is none. Every step keeps that,
one case for each rule of `Effect`; the rules in which a deletion fails
are the only ones that would not.
-/
import FileDepot.Proofs.Serving
import FileDepot.Proofs.Session.Effect

namespace FileDepot

variable {db : Database} {name : String} {t t' : Table} {s : Step}
  {l : Location}

-- ========================================================== contents

/-- What is stored at a location: the bytes, the time they were stored
at, and the host and the path they came from. -/
structure Content where
  bytes : Bytes
  time : Int
  host : String
  path : String

namespace Content

/-- The draft that carries a content. -/
def draft (l : Location) (c : Content) : Draft :=
  Draft.ofFile l c.bytes (Provenance.origin c.host c.path).encode c.time

/-- The descriptor of a content. -/
def descriptor (c : Content) : Descriptor :=
  ⟨c.bytes.length, .ofMillis c.time, Provenance.origin c.host c.path⟩

/-- The draft of a content is described as the content. -/
theorem descriptor_draft (l : Location) {c : Content}
    (hclock : Calendar.InRange c.time) :
    (c.draft l).descriptor = .ok c.descriptor :=
  Draft.descriptor_ok rfl hclock
    (Provenance.decode_encode_origin c.host c.path)

end Content

/-- The content of a local file as the step finds it. -/
def Step.content (s : Step) (file : String) : Option Content :=
  (s.files.read file).toOption.map fun bytes =>
    ⟨bytes, s.now, s.host, s.files.originPath file⟩

/-- A draft that is made carries the content of its file. -/
theorem Step.content_of_draft {file : String} {draft : Draft}
    (hread : s.depot.draft (s.scene db) l file = .ok draft) :
    ∃ c, s.content file = some c ∧ draft = c.draft l
      ∧ c.time = s.now := by
  obtain ⟨bytes, hbytes, -, rfl⟩ := Depot.draft_ok hread
  refine ⟨⟨bytes, s.now, s.host, s.files.originPath file⟩, ?_, rfl, rfl⟩
  unfold Step.content
  rw [show s.files.read file = .ok bytes from hbytes]
  rfl

-- =========================================================== the map

/-- A map from locations to contents. -/
abbrev Mirror : Type := Location → Option Content

namespace Mirror

/-- The map with another content, or none, at a location. -/
def set (m : Mirror) (l : Location) (c : Option Content) : Mirror :=
  fun k => if k = l then c else m k

/-- The map without the contents of a bucket from before a time. -/
def sweep (m : Mirror) (bucket : String) (limit : Int) : Mirror :=
  fun l => (m l).filter fun c =>
    !(l.bucket == bucket && decide (c.time < limit))

/-- The map after a step on a database. -/
def next (m : Mirror) (p : Step × Database) : Mirror :=
  match p.1.request, (p.1.play p.2).result with
  | .store l file, .ok () => m.set l (p.1.content file)
  | .store l _, .error failure =>
    if !p.1.depot.options.atomicOverwrite && failure.isRemote then
      m.set l none
    else m
  | .expire bucket days, _ => m.sweep bucket (cutoff p.1.now days)
  | _, _ => m

/-- A location that is set has what it was set to. -/
theorem set_self (m : Mirror) (l : Location) (c : Option Content) :
    m.set l c l = c := by
  unfold set
  rw [if_pos rfl]

/-- Setting a location leaves every other one alone. -/
theorem set_of_ne (m : Mirror) {k : Location} (c : Option Content)
    (h : k ≠ l) : m.set l c k = m k := by
  unfold set
  rw [if_neg h]

end Mirror

/-- The map after the steps of a trace. -/
def mirror (trace : List (Step × Database)) : Mirror :=
  trace.foldl Mirror.next fun _ => none

/-- The map after a further step. -/
theorem mirror_append (past : List (Step × Database))
    (p : Step × Database) :
    mirror (past ++ [p]) = (mirror past).next p := by
  unfold mirror
  rw [List.foldl_append]
  rfl

-- ===================================================== showing a map

/-- A table shows a map: at every location stands one record that
carries the content there, and none where there is none. -/
def Table.Shows (t : Table) (m : Mirror) : Prop :=
  ∀ l, (t.recordsAt l).map Record.toDraft
    = (m l).toList.map (Content.draft l)

namespace Table.Shows

variable {m : Mirror}

/-- Where the map has nothing, no record stands. -/
theorem none (h : t.Shows m) (hl : m l = .none) : t.recordsAt l = [] := by
  have h := h l
  rw [hl] at h
  exact List.map_eq_nil_iff.mp h

/-- Where the map has a content, one record stands and carries it. -/
theorem some {c : Content} (h : t.Shows m) (hl : m l = .some c) :
    ∃ r, t.recordsAt l = [r] ∧ r.toDraft = c.draft l := by
  have h := h l
  rw [hl] at h
  obtain ⟨r, hr, hdraft⟩ := List.map_eq_singleton_iff.mp h
  exact ⟨r, hr, hdraft⟩

/-- A cleared location shows a map with the location removed. -/
theorem clear (h : t.Shows m) (l : Location) :
    (t.clear l).Shows (m.set l .none) := by
  intro k
  by_cases hk : k = l
  · subst hk
    rw [t.recordsAt_clear_self, m.set_self]
    rfl
  · rw [t.recordsAt_clear_of_ne hk, m.set_of_ne _ hk]
    exact h k

/-- A record put in the place of all at its location shows a map with
its content set. -/
theorem replace (h : t.Shows m) (ht : t.Numbered) (l : Location)
    (c : Content) :
    ((t.clear l).append (c.draft l)).Shows (m.set l (.some c)) := by
  have hclear : (t.clear l).Numbered := ht.drop _
  intro k
  by_cases hk : k = l
  · subst hk
    rw [hclear.recordsAt_append_self (l := k) rfl,
      t.recordsAt_clear_self, m.set_self]
    rfl
  · have hne : (c.draft l).location ≠ k := fun he => hk he.symm
    rw [hclear.recordsAt_append_of_ne hne, t.recordsAt_clear_of_ne hk,
      m.set_of_ne _ hk]
    exact h k

/-- A swept table shows the swept map. -/
theorem sweep (h : t.Shows m) (bucket : String) (limit : Int) :
    (t.sweep bucket limit).Shows (m.sweep bucket limit) := by
  intro l
  rw [t.recordsAt_sweep]
  cases hl : m l with
  | none =>
      rw [h.none hl]
      unfold Mirror.sweep
      rw [hl]
      rfl
  | some c =>
      obtain ⟨r, hr, hdraft⟩ := h.some hl
      -- the record is expired exactly when the content is too old
      have hexpired : r.toDraft.isExpired bucket limit
          = (l.bucket == bucket && decide (c.time < limit)) := by
        rw [hdraft]
        rfl
      unfold Mirror.sweep
      rw [hr, hl, List.filter_cons, List.filter_nil, hexpired,
        Option.filter_some]
      cases l.bucket == bucket && decide (c.time < limit) with
      | true => rfl
      | false =>
          show [r.toDraft] = [c.draft l]
          rw [hdraft]

end Table.Shows

-- ========================================================== one step

namespace Mirror

variable {m : Mirror}

/-- A step that only looks changes nothing. -/
theorem next_of_looks (hask : s.request.looks = true) :
    m.next (s, db) = m := by
  unfold next
  cases hr : s.request with
  | store l file => rw [hr] at hask; cases hask
  | expire bucket days => rw [hr] at hask; cases hask
  | download l target => rfl
  | describe l => rfl
  | provision => rfl

/-- A store that succeeds sets its location. -/
theorem next_of_stored {file : String} (hask : s.request = .store l file)
    (hresult : (s.play db).result = .ok ()) :
    m.next (s, db) = m.set l (s.content file) := by
  unfold next
  dsimp only
  rw [hask, hresult]

/-- A store that fails removes its location, or changes nothing. -/
theorem next_of_failed {file : String} {f : Failure}
    (hask : s.request = .store l file)
    (hresult : (s.play db).result = .error f) :
    m.next (s, db)
      = if !s.depot.options.atomicOverwrite && f.isRemote then
          m.set l none
        else m := by
  unfold next
  dsimp only
  rw [hask, hresult]

/-- An expiry removes what is too old. -/
theorem next_of_expire {bucket : String} {days : Nat}
    (hask : s.request = .expire bucket days) :
    m.next (s, db) = m.sweep bucket (cutoff s.now days) := by
  unfold next
  dsimp only
  rw [hask]

end Mirror

/-- A step whose deletion does not fail does to the table what it does
to the map. -/
theorem Effect.shows {m : Mirror} (he : Effect s db t t')
    (ht : t.Numbered) (hdel : s.deletionFails db = false)
    (h : t.Shows m) : t'.Shows (m.next (s, db)) := by
  cases he with
  | looked hask =>
      rw [Mirror.next_of_looks hask]
      exact h
  | refused l file f hask hresult hwhy =>
      rw [Mirror.next_of_failed hask hresult, if_neg]
      · exact h
      · rcases hwhy with hmode | hlocal | hfails
        · simp [hmode]
        · cases hf : f.isRemote with
          | false => simp
          | true =>
              rw [Failure.isLocal_of_isRemote hf] at hlocal
              cases hlocal
        · rw [hdel] at hfails
          cases hfails
  | cleared l file f hask hresult hmode hf =>
      rw [Mirror.next_of_failed hask hresult, if_pos (by simp [hmode, hf])]
      exact h.clear l
  | replaced l file draft hask hresult hread =>
      obtain ⟨c, hc, rfl, -⟩ := s.content_of_draft hread
      rw [Mirror.next_of_stored hask hresult, hc]
      exact h.replace ht l c
  | stacked l file draft hask hresult hread hfails =>
      rw [hdel] at hfails
      cases hfails
  | unswept bucket days hask hfails =>
      rw [hdel] at hfails
      cases hfails
  | swept bucket days hask =>
      rw [Mirror.next_of_expire hask]
      exact h.sweep bucket _

/-- The times of the map are readings of the clocks. -/
theorem Mirror.time_next {m : Mirror} {P : Int → Prop}
    (h : ∀ l c, m l = some c → P c.time) (hs : P s.now)
    (k : Location) (c : Content) (hc : m.next (s, db) k = some c) :
    P c.time := by
  have hset : ∀ {l : Location} {new : Option Content},
      (∀ c, new = some c → P c.time) → m.set l new k = some c →
      P c.time := by
    intro l new hnew hc
    by_cases hk : k = l
    · subst hk
      rw [m.set_self] at hc
      exact hnew c hc
    · rw [m.set_of_ne _ hk] at hc
      exact h k c hc
  cases hask : s.request with
  | download l target =>
      rw [next_of_looks (by rw [hask]; rfl)] at hc
      exact h k c hc
  | describe l =>
      rw [next_of_looks (by rw [hask]; rfl)] at hc
      exact h k c hc
  | provision =>
      rw [next_of_looks (by rw [hask]; rfl)] at hc
      exact h k c hc
  | expire bucket days =>
      rw [next_of_expire hask] at hc
      exact h k c (Option.filter_eq_some_iff.mp hc).1
  | store l file =>
      cases hresult : (s.play db).result with
      | ok u =>
          rw [next_of_stored hask hresult] at hc
          refine hset ?_ hc
          intro new hnew
          obtain ⟨bytes, -, rfl⟩ := Option.map_eq_some_iff.mp hnew
          exact hs
      | error f =>
          rw [next_of_failed hask hresult] at hc
          split at hc
          · exact hset (fun c hc => by cases hc) hc
          · exact h k c hc

-- ========================================================== sessions

/-- A table mirrors a map after some steps. -/
structure Mirrored (name : String) (past : List (Step × Database))
    (db : Database) (t : Table) : Prop where
  holds : db.Holds name t
  numbered : t.Numbered
  shows : t.Shows (mirror past)
  inRange : ∀ l c, mirror past l = some c → Calendar.InRange c.time

/-- A table that has just been provisioned mirrors the empty map. -/
theorem Mirrored.start (h : db.IsNew name) :
    Mirrored name [] db (Database.newTable name) where
  holds := h.holds
  numbered := Table.Numbered.of_nil rfl
  shows := fun _ => rfl
  inRange := by
    intro l c hc
    cases hc

/-- Every step on the table whose deletion does not fail keeps what it
mirrors. -/
theorem Mirrored.step {past : List (Step × Database)}
    (h : Mirrored name past db t) (hon : s.isOn name)
    (hclock : Calendar.InRange s.now)
    (hdel : s.deletionFails db = false) :
    ∃ t', Mirrored name (past ++ [(s, db)]) (s.after db) t' := by
  obtain ⟨t', h', he⟩ := s.effect h.holds hon
  have hsees := s.sees_numbered h.numbered
  refine ⟨t', h', he.numbered hsees, ?_, ?_⟩
  · rw [mirror_append]
    exact he.shows hsees hdel h.shows
  · rw [mirror_append]
    exact Mirror.time_next h.inRange hclock

/-- What a database answers when its table mirrors a map. -/
theorem Mirrored.answers {past : List (Step × Database)}
    (h : Mirrored name past db t) (l : Location) :
    db.Answers name l (.ok ((mirror past l).map Content.descriptor))
      ((mirror past l).map Content.bytes) := by
  have hnewest := h.numbered.newest?_eq l
  cases hl : mirror past l with
  | none =>
      rw [h.shows.none hl] at hnewest
      have hanswers := h.holds.answers l (by
        intro r hr
        rw [hnewest] at hr
        cases hr)
      rw [hnewest] at hanswers
      exact hanswers
  | some c =>
      obtain ⟨r, hr, hdraft⟩ := h.shows.some hl
      rw [hr] at hnewest
      have hlen : r.length = r.data.length := by
        rw [hdraft]
        rfl
      have hanswers := h.holds.answers l (by
        intro r' hr'
        rw [hnewest] at hr'
        cases hr'
        exact hlen)
      have hdata : r.data = c.bytes := by
        rw [hdraft]
        rfl
      have hdescriptor : r.toDraft.descriptor = .ok c.descriptor := by
        rw [hdraft]
        exact c.descriptor_draft l (h.inRange l c hl)
      rw [hnewest] at hanswers
      change db.Answers name l (foundDescriptor (some r)) (some r.data)
        at hanswers
      rw [foundDescriptor_some hdescriptor, hdata] at hanswers
      exact hanswers

/-- A table that has just been provisioned mirrors the map of what is
stored, through any session on it with clocks in range in which no
deletion fails. At every location stands one record for the content the
map has there and none where it has none, and every depot describes and
downloads the contents of the map. -/
theorem session_mirrors (hnew : db.IsNew name) (steps : List Step)
    (hon : ∀ s ∈ steps, s.isOn name)
    (hclock : ∀ s ∈ steps, Calendar.InRange s.now)
    (hdel : ∀ p ∈ trace db steps, p.1.deletionFails p.2 = false) :
    ∃ t, (session db steps).Holds name t
      ∧ t.Shows (mirror (trace db steps))
      ∧ ∀ l, (session db steps).Answers name l
          (.ok ((mirror (trace db steps) l).map Content.descriptor))
          ((mirror (trace db steps) l).map Content.bytes) := by
  have hall : ∀ p ∈ trace db steps, p.1.isOn name
      ∧ Calendar.InRange p.1.now ∧ p.1.deletionFails p.2 = false :=
    fun p hp => ⟨hon _ (mem_of_mem_trace hp),
      hclock _ (mem_of_mem_trace hp), hdel p hp⟩
  obtain ⟨t, h⟩ := session_induction
    (P := fun past now =>
      (∀ p ∈ past, p.1.isOn name ∧ Calendar.InRange p.1.now
        ∧ p.1.deletionFails p.2 = false) →
      ∃ t, Mirrored name past now t)
    (fun _ => ⟨_, .start hnew⟩)
    (by
      intro past now s ih hpast
      obtain ⟨t, ht⟩ := ih fun p hp => hpast p (List.mem_append_left _ hp)
      obtain ⟨hon, hclock, hdel⟩ :=
        hpast (s, now) (List.mem_append_right _ (List.mem_singleton_self _))
      exact ht.step hon hclock hdel)
    steps hall
  exact ⟨t, h.holds, h.shows, h.answers⟩

/-- A store, one that loses its insertion, and another: the map and the
table have the last content. -/
theorem session_mirrors_small :
    ∃ t, (session smallDatabase
          [smallStore 10, { smallStore 20 with blocksInserts := true },
            smallStore 30]).Holds "t" t
      ∧ (t.recordsAt ⟨"b", "n"⟩).map (fun r => (r.data, r.created))
          = [([1, 2, 3], 30)] := by
  obtain ⟨t, hheld, hshows, -⟩ :=
    session_mirrors smallDatabase_isNew
      [smallStore 10, { smallStore 20 with blocksInserts := true },
        smallStore 30]
      (by decide) (by decide) (by decide +kernel)
  refine ⟨t, hheld, ?_⟩
  have hmap : (t.recordsAt ⟨"b", "n"⟩).map (fun r => (r.data, r.created))
      = ((t.recordsAt ⟨"b", "n"⟩).map Record.toDraft).map
          fun d => (d.data, d.created) := by
    rw [List.map_map]
    rfl
  rw [hmap, hshows]
  decide +kernel

end FileDepot
