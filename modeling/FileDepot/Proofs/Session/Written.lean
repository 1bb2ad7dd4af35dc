/-
What a step writes: one record if it is a store that succeeds, else
nothing.

`written` compares the table before and after a step, so it is about
what is there and not about what an operation says of itself. That a
store adds its record under an id no record has is what makes the
comparison exact: the record cannot be mistaken for one it replaced.
-/
import FileDepot.Proofs.Provenance.RoundTrip
import FileDepot.Proofs.Session.Effect

namespace FileDepot

variable {db : Database} {name : String} {t : Table} {s : Step}

-- ====================================================== what is kept

namespace Effect

variable {t' : Table}

/-- A step keeps a part of the table, and a store that succeeds adds the
record of its draft under the next id behind it. -/
theorem kept (he : Effect s db t t') (ht : t.Numbered) :
    (t'.records.Sublist t.records ∧ t'.highest = t.highest
        ∧ ∀ l, ¬s.StoresAt db l)
      ∨ ∃ l file draft rest, s.request = .store l file
        ∧ s.StoresAt db l
        ∧ s.depot.draft (s.scene db) l file = .ok draft
        ∧ rest.Sublist t.records
        ∧ t'.records = rest ++ [⟨draft, t.nextId⟩]
        ∧ t'.highest = t.nextId := by
  cases he with
  | looked hask =>
      exact .inl ⟨List.Sublist.refl _, rfl,
        fun l => Step.StoresAt.not_looks hask⟩
  | refused l file f hask hresult hwhy =>
      exact .inl ⟨List.Sublist.refl _, rfl,
        fun l => Step.StoresAt.not_error hresult⟩
  | cleared l file f hask hresult hmode hf hdel =>
      exact .inl ⟨List.filter_sublist, rfl,
        fun l => Step.StoresAt.not_error hresult⟩
  | unswept bucket days hask hdel =>
      exact .inl ⟨List.Sublist.refl _, rfl,
        fun l => Step.StoresAt.not_expire hask⟩
  | swept bucket days hask hdel =>
      exact .inl ⟨List.filter_sublist, rfl,
        fun l => Step.StoresAt.not_expire hask⟩
  | replaced l file draft hask hresult hread hdel =>
      have hclear : (t.clear l).Numbered := ht.drop _
      exact .inr ⟨l, file, draft, _, hask, ⟨file, hask, hresult⟩, hread,
        List.filter_sublist, hclear.records_append draft,
        Table.append_highest _ draft⟩
  | stacked l file draft hask hresult hread hdel =>
      exact .inr ⟨l, file, draft, _, hask, ⟨file, hask, hresult⟩, hread,
        List.Sublist.refl _, ht.records_append draft,
        t.append_highest draft⟩

end Effect

/-- The records in a table that is there. -/
theorem Database.Holds.records (h : db.Holds name t) :
    db.records name = t.records := by
  unfold Database.records
  rw [(Database.holds_iff.mp h).2]
  rfl

/-- A step that keeps a part of the table has written nothing. -/
theorem Step.written_of_sublist {t' : Table} (h : db.Holds name t)
    (h' : (s.after db).Holds name t')
    (hsub : t'.records.Sublist t.records) : s.written db name = [] := by
  unfold Step.written
  rw [h.records, h'.records, List.filter_eq_nil_iff]
  intro r hr
  simpa using hsub.subset hr

/-- A step that adds a record under the next id has written that. -/
theorem Step.written_of_append {t' : Table} {rest : List Record}
    {draft : Draft} (h : db.Holds name t) (ht : t.Numbered)
    (h' : (s.after db).Holds name t') (hsub : rest.Sublist t.records)
    (hrec : t'.records = rest ++ [⟨draft, t.nextId⟩]) :
    s.written db name = [⟨draft, t.nextId⟩] := by
  have hold : rest.filter (fun r => decide (r ∉ t.records)) = [] := by
    rw [List.filter_eq_nil_iff]
    intro r hr
    simpa using hsub.subset hr
  unfold Step.written
  rw [h.records, h'.records, hrec, List.filter_append, hold,
    List.nil_append, List.filter_cons_of_pos, List.filter_nil]
  exact decide_eq_true (ht.nextId_fresh draft)

/-- A store that succeeds writes one record, that of its draft, under
the next id. -/
theorem Step.written_of_storesAt {l : Location} (h : db.Holds name t)
    (ht : t.Numbered) (hs : s.isOn name) (hstores : s.StoresAt db l) :
    ∃ file draft, s.request = .store l file
      ∧ s.depot.draft (s.scene db) l file = .ok draft
      ∧ s.written db name = [⟨draft, t.nextId⟩] := by
  obtain ⟨t', h', he⟩ := s.effect h hs
  rcases he.kept (s.sees_numbered ht) with
    ⟨-, -, hnot⟩ | ⟨k, file, draft, rest, hask, -, hread, hsub, hrec, -⟩
  · exact absurd hstores (hnot l)
  · obtain ⟨file', hask', -⟩ := hstores
    rw [hask] at hask'
    injection hask' with hk
    subst hk
    exact ⟨file, draft, hask, hread,
      s.written_of_append h ht h' hsub hrec⟩

-- =================================================== what it looks like

/-- The record is one that the step stores: of the current version, in
use, created when it was last changed, with the size of its payload,
and with the host and the path it came from. -/
structure Step.Wrote (s : Step) (r : Record) : Prop where
  version : r.version = "mu"
  status : r.status = 1
  extra : r.extra = none
  times : r.modified = some r.created
  length : r.length = r.data.length
  limit : r.data.length ≤ s.depot.options.maxFileBytes
  clock : r.created = s.now
  source : ∃ file, s.request = .store r.location file
    ∧ s.files.read file = .ok r.data
    ∧ Provenance.decode r.metadata
        = .ok (Provenance.origin s.host (s.files.originPath file))

/-- The record of a draft is one that its step stores. -/
theorem Step.wrote_of_draft {l : Location} {file : String} {draft : Draft}
    (hask : s.request = .store l file)
    (hread : s.depot.draft (s.scene db) l file = .ok draft) (id : Int) :
    s.Wrote ⟨draft, id⟩ := by
  obtain ⟨data, hdata, hle, rfl⟩ := Depot.draft_ok hread
  exact
    { version := rfl
      status := rfl
      extra := rfl
      times := rfl
      length := rfl
      limit := hle
      clock := rfl
      source := ⟨file, hask, hdata,
        Provenance.decode_encode_origin s.host (s.files.originPath file)⟩ }

end FileDepot
