/-
Descriptors of records: which records have one, which failure the others
meet first, and that a descriptor is read back from what is printed for
it.

A record is described from three of its columns, which are looked at in
a fixed order (`Draft.Refused`). What comes of them can be written into
a text and read back: the length because a 64-bit word holds it, the
instant because a millisecond names it (`regular_ofMillis`), and the
provenance because it was decoded itself (`readable_of_decode`). Both
layouts of the text say the tree of the descriptor, and that is all that
reading needs (`Faithful.parse_of_saidBy`).
-/
import FileDepot.Proofs.Descriptor.Reading
import FileDepot.Proofs.Json.Indenting
import FileDepot.Proofs.Serving
import FileDepot.Run

namespace FileDepot

/-- A text of a tree with blanks behind it says that tree. -/
theorem Json.Spelt.isSaidBy {t : Tree} {cs tail : List Char}
    (h : Spelt t (cs ++ tail) tail) (hb : Blanks tail []) :
    t.IsSaidBy (String.ofList (cs ++ tail)) := by
  refine ⟨cs ++ tail, tail, ?_, h, hb⟩
  rw [String.toList_ofList]
  exact .none

-- ============================================================= texts

namespace Descriptor

variable {x : Descriptor}

/-- What is printed for a descriptor is a text of its tree. -/
theorem Faithful.spelt_render (hx : x.Faithful) (rest : List Char) :
    Json.Spelt x.json.tree (Json.render x.json ++ rest) rest := by
  have hprovenance : ∀ rest, Json.Spelt x.provenance.json.tree
      (Json.render x.provenance.json ++ rest) rest :=
    Json.spelt_render_obj fun f hf =>
      (hx.provenance.toPlain.fields f hf).spelt_render
  unfold json
  refine Json.spelt_render_obj ?_ rest
  simp only [List.forall_mem_cons]
  exact ⟨fun _ => .number (Json.numeral_renderInt _),
    Json.Plain.str.spelt_render, hprovenance, nofun⟩

/-- So is what is printed for it line by line. -/
theorem Faithful.spelt_renderAt (hx : x.Faithful) (rest : List Char) :
    Json.Spelt x.json.tree (Json.renderAt 0 x.json ++ rest) rest := by
  have hprovenance : ∀ rest, Json.Spelt x.provenance.json.tree
      (Json.renderAt 1 x.provenance.json ++ rest) rest :=
    Json.spelt_renderAt_obj fun f hf =>
      (hx.provenance.toPlain.fields f hf).spelt_renderAt 2
  unfold json
  refine Json.spelt_renderAt_obj ?_ rest
  simp only [List.forall_mem_cons]
  exact ⟨fun _ => .number (Json.numeral_renderInt _),
    Json.Plain.str.spelt_renderAt 1, hprovenance, nofun⟩

/-- A descriptor is read back from both of its texts, and from the line
that is printed of it. -/
structure ReadBack (x : Descriptor) : Prop where
  compact : parse x.compact = .ok x
  pretty : parse x.pretty = .ok x
  printed : parse (x.pretty ++ "\n") = .ok x

theorem Faithful.readBack (hx : x.Faithful) : x.ReadBack where
  compact := by
    have h := (hx.spelt_render []).isSaidBy .none
    rw [List.append_nil] at h
    exact hx.parse_of_saidBy h
  pretty := by
    have h := (hx.spelt_renderAt []).isSaidBy .none
    rw [List.append_nil] at h
    exact hx.parse_of_saidBy h
  printed := by
    have h := (hx.spelt_renderAt ['\n']).isSaidBy (.more rfl .none)
    rw [String.ofList_append] at h
    exact hx.parse_of_saidBy h

end Descriptor

-- =========================================================== records

/-- A millisecond in range names an instant that can be written. -/
theorem Calendar.InRange.regular_ofMillis {millis : Int}
    (h : Calendar.InRange millis) :
    (Calendar.Instant.ofMillis millis).Regular := by
  unfold Calendar.InRange Calendar.Instant.minMillis
    Calendar.Instant.maxMillis at h
  refine ⟨?_, ?_, ?_⟩
  · show Calendar.Instant.minMillis ≤ millis / 1000 * 1000
    unfold Calendar.Instant.minMillis
    omega
  · show millis / 1000 * 1000 ≤ Calendar.Instant.maxMillis
    unfold Calendar.Instant.maxMillis
    omega
  · show (millis % 1000).toNat * 1000000 < 1000000000
    omega

namespace Draft

variable {d : Draft} {x : Descriptor}

/-- A record can be described: its length is not negative, its time
names an instant and its metadata text can be read. -/
structure Describable (d : Draft) : Prop where
  length : 0 ≤ d.length
  time : Calendar.InRange d.modifiedMillis
  metadata : ∃ p, Provenance.decode d.metadata = .ok p

/-- The failure of a record that cannot be described, by what is wrong
with it first. -/
inductive Refused (d : Draft) : Failure → Prop
  | length : d.length < 0 →
      Refused d (.database (.negativeLength d.length d.location))
  | time : 0 ≤ d.length → ¬Calendar.InRange d.modifiedMillis →
      Refused d (.database (.noInstant d.modifiedMillis))
  | metadata {fault} : 0 ≤ d.length →
      Calendar.InRange d.modifiedMillis →
      Provenance.decode d.metadata = .error fault →
      Refused d (.metadata fault)

/-- A record of a negative length is not described. -/
theorem descriptor_of_negative (h : d.length < 0) :
    d.descriptor
      = .error (.database (.negativeLength d.length d.location)) := by
  unfold descriptor
  rw [if_pos h]

/-- Nor is one whose time names no instant. -/
theorem descriptor_of_noInstant (hlen : 0 ≤ d.length)
    (htime : ¬Calendar.InRange d.modifiedMillis) :
    d.descriptor = .error (.database (.noInstant d.modifiedMillis)) := by
  have hnone : Calendar.Instant.ofMillis? d.modifiedMillis = none :=
    if_neg htime
  unfold descriptor
  rw [if_neg (by omega), hnone]

/-- Any other record is described, if its metadata can be read. -/
theorem descriptor_of_inRange (hlen : 0 ≤ d.length)
    (htime : Calendar.InRange d.modifiedMillis) :
    d.descriptor
      = match Provenance.decode d.metadata with
        | .error fault => .error (.metadata fault)
        | .ok p => .ok ⟨d.length.toNat, .ofMillis d.modifiedMillis, p⟩ := by
  unfold descriptor
  rw [if_neg (by omega)]
  cases Provenance.decode d.metadata with
  | error fault => simp only [htime.ofMillis?]
  | ok p => simp only [htime.ofMillis?]

/-- Which failure a record meets. -/
theorem descriptor_error_iff {failure : Failure} :
    d.descriptor = .error failure ↔ d.Refused failure := by
  constructor
  · intro h
    by_cases hneg : d.length < 0
    · rw [descriptor_of_negative hneg] at h
      cases h
      exact .length hneg
    have hlen : 0 ≤ d.length := by omega
    by_cases htime : Calendar.InRange d.modifiedMillis
    · rw [descriptor_of_inRange hlen htime] at h
      split at h
      · next hfault =>
        cases h
        exact .metadata hlen htime hfault
      · cases h
    · rw [descriptor_of_noInstant hlen htime] at h
      cases h
      exact .time hlen htime
  · rintro (hneg | ⟨hlen, htime⟩ | ⟨hlen, htime, hfault⟩)
    · exact descriptor_of_negative hneg
    · exact descriptor_of_noInstant hlen htime
    · rw [descriptor_of_inRange hlen htime, hfault]

/-- What a descriptor has of its record. -/
theorem of_descriptor (h : d.descriptor = .ok x) :
    0 ≤ d.length ∧ Calendar.InRange d.modifiedMillis
      ∧ Provenance.decode d.metadata = .ok x.provenance
      ∧ x.length = d.length
      ∧ x.lastModified = .ofMillis d.modifiedMillis := by
  by_cases hneg : d.length < 0
  · rw [descriptor_of_negative hneg] at h
    cases h
  have hlen : 0 ≤ d.length := by omega
  by_cases htime : Calendar.InRange d.modifiedMillis
  · rw [descriptor_of_inRange hlen htime] at h
    split at h
    · cases h
    · next p hp =>
      cases h
      exact ⟨hlen, htime, hp, Int.toNat_of_nonneg hlen, rfl⟩
  · rw [descriptor_of_noInstant hlen htime] at h
    cases h

/-- Which records are described. -/
theorem descriptor_ok_iff :
    (∃ x, d.descriptor = .ok x) ↔ d.Describable := by
  constructor
  · rintro ⟨x, h⟩
    obtain ⟨hlen, htime, hmeta, -, -⟩ := of_descriptor h
    exact ⟨hlen, htime, x.provenance, hmeta⟩
  · rintro ⟨hlen, htime, p, hp⟩
    rw [descriptor_of_inRange hlen htime, hp]
    exact ⟨_, rfl⟩

/-- The descriptor of a record can be written and read back, if a 64-bit
word holds its length, its numbers are whole and its nesting is
allowed. -/
theorem faithful_of_descriptor (h : d.descriptor = .ok x)
    (hlen : d.length ≤ Json.maxWord) (hint : x.provenance.json.Integral)
    (hd : x.provenance.json.Within 126) : x.Faithful := by
  obtain ⟨-, htime, hmeta, hlength, hmodified⟩ := of_descriptor h
  refine ⟨by omega, ?_, Provenance.readable_of_decode hmeta hint, hd⟩
  rw [hmodified]
  exact htime.regular_ofMillis

end Draft

-- =========================================================== commands

/-- A description that was found is that of the record found. -/
theorem Depot.describe_ok {d : Depot} {l : Location} {scene : Scene}
    {x : Descriptor} (h : (d.describe l scene).result = .ok (some x)) :
    ∃ r, scene.query (fun db => db.described d.table.text l) = .ok (some r)
      ∧ r.toDraft.descriptor = .ok x := by
  rw [describe_result] at h
  unfold lookUp at h
  obtain ⟨found, hfound, h⟩ := bind_ok h
  cases found with
  | none => cases h
  | some r =>
      refine ⟨r, hfound, ?_⟩
      dsimp only at h
      cases hr : r.toDraft.descriptor with
      | error failure =>
          rw [hr] at h
          cases h
      | ok y =>
          rw [hr] at h
          cases h
          rfl

/-- Where a location is described successfully, what is printed is the
indented descriptor of the record found there, on lines of its own. -/
theorem CommandLine.Command.describe_output {m : Mounted} {site : Site}
    {l : Location} (h : (dispatch m site (.describe l)).result = .ok ()) :
    ∃ r x, (site.scene m.residence).query
          (fun db => db.described m.depot.table.text l) = .ok (some r)
      ∧ r.toDraft.descriptor = .ok x
      ∧ (dispatch m site (.describe l)).output = x.pretty ++ "\n" := by
  unfold dispatch printDescriptor Mounted.play at h ⊢
  dsimp only at h ⊢
  split at h
  · next x hx =>
    obtain ⟨r, hr, hdescriptor⟩ := Depot.describe_ok hx
    exact ⟨r, x, hr, hdescriptor, rfl⟩
  · cases h
  · cases h

-- ========================================================== round trip

/-- What is printed of a stored file can be read back.

A record is described exactly if its length is not negative, its time
names an instant and its metadata text can be read, and the failure of
any other is that of the first of these which is not so. If a 64-bit
word holds the length, all numbers of the metadata are whole and it
nests less than 127 levels deep, then the descriptor comes back from
both of its texts as it is, with the millisecond of the record. And what
describing a location prints is the indented text of the descriptor of
the record found there. -/
theorem descriptions_read_back :
    (∀ d : Draft,
        ((∃ x, d.descriptor = .ok x) ↔ d.Describable)
        ∧ ∀ failure, d.descriptor = .error failure ↔ d.Refused failure)
      ∧ (∀ (d : Draft) (x : Descriptor), d.descriptor = .ok x →
          d.length ≤ Json.maxWord → x.provenance.json.Integral →
          x.provenance.json.Within 126 →
          x.ReadBack ∧ x.lastModified.millis = d.modifiedMillis)
      ∧ ∀ (m : Mounted) (site : Site) (l : Location),
          (CommandLine.Command.dispatch m site (.describe l)).result
            = .ok () →
          ∃ r x, (site.scene m.residence).query
                (fun db => db.described m.depot.table.text l)
              = .ok (some r)
            ∧ r.toDraft.descriptor = .ok x
            ∧ (CommandLine.Command.dispatch m site (.describe l)).output
              = x.pretty ++ "\n" := by
  refine ⟨fun d => ⟨Draft.descriptor_ok_iff,
    fun _ => Draft.descriptor_error_iff⟩, ?_,
    fun m site l => CommandLine.Command.describe_output⟩
  intro d x h hlen hint hd
  obtain ⟨-, -, -, -, hmodified⟩ := Draft.of_descriptor h
  refine ⟨(Draft.faithful_of_descriptor h hlen hint hd).readBack, ?_⟩
  rw [hmodified, Calendar.Instant.millis_ofMillis]

/-- A record of the last millisecond before the year 0, whose metadata
has a float that a later field replaces. -/
def earlyDraft : Draft where
  bucket := "uploads"
  name := "report.csv"
  version := Draft.currentVersion
  metadata := some "\x7b\"n\": 1.5, \"n\": [-2]\x7d"
  length := 11
  status := Draft.enabled
  data := []
  extra := none
  created := -62167219200001
  modified := none

/-- Its descriptor comes back. -/
theorem descriptions_read_back_early :
    ∃ x, earlyDraft.descriptor = .ok x
      ∧ x.lastModified.rfc3339 = "-0001-12-31T23:59:59.999Z"
      ∧ x.ReadBack ∧ x.lastModified.millis = -62167219200001 := by
  have hok : earlyDraft.descriptor
      = .ok ⟨11, .ofMillis (-62167219200001),
        ⟨none, none, [("n", .arr [.int (-2)])]⟩⟩ := by
    decide +kernel
  have hint : (Provenance.json
      ⟨none, none, [("n", .arr [.int (-2)])]⟩).Integral :=
    .obj (List.forall_mem_singleton.mpr
      (.arr (List.forall_mem_singleton.mpr .int)))
  have hd : (Provenance.json
      ⟨none, none, [("n", .arr [.int (-2)])]⟩).Within 126 :=
    .obj (List.forall_mem_singleton.mpr
      (.arr (List.forall_mem_singleton.mpr .int)))
  obtain ⟨hback, hmillis⟩ :=
    descriptions_read_back.2.1 earlyDraft _ hok (by decide) hint hd
  exact ⟨_, hok, by decide +kernel, hback, hmillis⟩

end FileDepot
