/-
Reading of descriptors: a text that says what a descriptor is written as
is read as that descriptor.

The three fields are read one by one, each by its own reader: a number,
an instant and a provenance. What one of them adds to what has been read
is `learn`, and the object is this step folded over its fields. How the
text is laid out does not come in: it only has to say the tree of the
descriptor's JSON value (`Faithful.parse_of_saidBy`).
-/
import FileDepot.Descriptor
import FileDepot.Proofs.Calendar.Reading
import FileDepot.Proofs.Provenance.Tidy

namespace FileDepot

-- ========================================== numbers, texts, instants

namespace Json

/-- Blanks in front of a value that is not wanted make no
difference. -/
theorem Blanks.mismatch_eq {cs a : List Char} (h : Blanks cs a) :
    mismatch cs = mismatch a := by
  unfold mismatch
  rw [h.skipSpace_eq, h.value_eq]

/-- Blanks in front of a whole number make no difference. -/
theorem Blanks.naturalValue_eq {cs a : List Char} (h : Blanks cs a) :
    naturalValue cs = naturalValue a := by
  unfold naturalValue
  rw [h.skipSpace_eq, h.mismatch_eq]

/-- Blanks in front of a text make no difference. -/
theorem Blanks.textValue_eq {cs a : List Char} (h : Blanks cs a) :
    textValue cs = textValue a := by
  unfold textValue
  rw [h.skipSpace_eq, h.mismatch_eq]

/-- A text of a string is read as that string. -/
theorem Spelt.textValue_eq {s : String} {cs rest : List Char}
    (h : Spelt (.str s) cs rest) : textValue cs = .ok (s, rest) := by
  cases h with
  | str hs =>
      unfold textValue
      rw [skipSpace_cons rfl]
      exact string_iff.mpr hs

/-- A text of a whole number is read as that number. -/
theorem Spelt.naturalValue_eq {n : Nat} {cs rest : List Char}
    (h : Spelt (.number (renderInt n)) cs rest) (hn : n ≤ maxWord)
    (hr : Delimited rest) : naturalValue cs = .ok (n, rest) := by
  cases h with
  | number _ => exact naturalValue_renderInt hn hr

end Json

namespace Descriptor

open Json (Tree Spelt Valued Follows Delimited Blanks)

/-- Blanks in front of an instant make no difference. -/
theorem instantValue_eq {cs a : List Char} (h : Blanks cs a) :
    instantValue cs = instantValue a := by
  unfold instantValue
  rw [h.textValue_eq]

/-- A text of a written instant is read as that instant. -/
theorem instantValue_rfc3339 {t : Calendar.Instant} (ht : t.Regular)
    {cs rest : List Char} (h : Spelt (.str t.rfc3339) cs rest) :
    instantValue cs = .ok (t, rest) := by
  unfold instantValue
  rw [h.textValue_eq]
  dsimp only [bind, Except.bind]
  rw [ht.parse?_rfc3339]

-- =========================================================== fields

/-- A descriptor that can be written into a text and read back from it:
each of its parts can, and its nesting is allowed. -/
structure Faithful (x : Descriptor) : Prop where
  length : x.length ≤ Json.maxWord
  lastModified : x.lastModified.Regular
  provenance : x.provenance.Readable
  nesting : x.provenance.json.Within innerDepth

/-- The tree of a descriptor. -/
theorem tree_json (x : Descriptor) :
    x.json.tree = .obj
      [("length", .number (Json.renderInt x.length)),
       ("last_modified", .str x.lastModified.rfc3339),
       ("meta_info", x.provenance.json.tree)] := rfl

/-- What a field of a descriptor adds to what has been read, by its key.
One that was seen before is refused, one that is not known adds
nothing. -/
def learn (x : Descriptor) (seen : Partial) (f : String × Tree) :
    Option Partial :=
  if f.1 = "length" then
    if seen.length.isSome then none
    else some { seen with length := some x.length }
  else if f.1 = "last_modified" then
    if seen.lastModified.isSome then none
    else some { seen with lastModified := some x.lastModified }
  else if f.1 = "meta_info" then
    if seen.provenance.isSome then none
    else some { seen with provenance := some x.provenance }
  else some seen

/-- A field that may stand only once is read as its value, unless it
was seen before. -/
theorem toOption_once {α : Type} {item : Json.Reader α} {v : α}
    {seen : Bool} {t : Tree} {cs rest : List Char} (h : Valued t cs rest)
    (hblanks : ∀ {a b}, Blanks a b → item a = item b)
    (hitem : ∀ {a}, Spelt t a rest → item a = .ok (v, rest))
    (g : α → Partial) :
    (if seen then .error .mismatched
      else do
        let (_, cs) ← Json.colon cs
        let (v, rest) ← item cs
        .ok (g v, rest) : Except Json.Fault (Partial × List Char)).toOption
      = (if seen then none else some (g v)).map (·, rest) := by
  cases seen with
  | true => rfl
  | false =>
      exact h.toOption_colon (some v) hblanks
        (fun hs => by rw [hitem hs]; rfl) g

variable {x : Descriptor}

theorem Faithful.follows_length (hx : x.Faithful) :
    Follows (readField innerDepth) x.learn
      ("length", .number (Json.renderInt x.length)) := by
  intro seen a b hv hdelimited
  unfold readField learn
  dsimp only
  rw [if_pos rfl, if_pos rfl]
  exact toOption_once hv Blanks.naturalValue_eq
    (fun hs => hs.naturalValue_eq hx.length hdelimited)
    fun n => { seen with length := some n }

theorem Faithful.follows_lastModified (hx : x.Faithful) :
    Follows (readField innerDepth) x.learn
      ("last_modified", .str x.lastModified.rfc3339) := by
  have hlength : ¬"last_modified" = "length" := by decide
  intro seen a b hv _
  unfold readField learn
  dsimp only
  rw [if_neg hlength, if_pos rfl, if_neg hlength, if_pos rfl]
  exact toOption_once hv instantValue_eq
    (fun hs => instantValue_rfc3339 hx.lastModified hs)
    fun t => { seen with lastModified := some t }

theorem Faithful.follows_provenance (hx : x.Faithful) :
    Follows (readField innerDepth) x.learn
      ("meta_info", x.provenance.json.tree) := by
  have hlength : ¬"meta_info" = "length" := by decide
  have hmodified : ¬"meta_info" = "last_modified" := by decide
  have hblanks : ∀ {a b}, Blanks a b →
      Provenance.reader innerDepth a = Provenance.reader innerDepth b := by
    intro a b hb
    unfold Provenance.reader
    rw [hb.skipSpace_eq, hb.mismatch_eq]
  intro seen a b hv _
  unfold readField learn
  dsimp only
  rw [if_neg hlength, if_neg hmodified, if_pos rfl, if_neg hlength,
    if_neg hmodified, if_pos rfl]
  exact toOption_once hv hblanks
    (fun hs => toOption_eq_some.mp
      (hx.provenance.toOption_reader hx.nesting (by decide) .none hs))
    fun p => { seen with provenance := some p }

-- ======================================================== the object

/-- The object of a descriptor is read as the descriptor. -/
theorem Faithful.toOption_reader (hx : x.Faithful)
    {cs a rest : List Char} (hb : Blanks cs a)
    (h : Spelt x.json.tree a rest) :
    (reader cs).toOption = some (x, rest) := by
  rw [tree_json] at h
  cases h with
  | obj hfs =>
      have hfollows : ∀ f ∈
          [("length", Tree.number (Json.renderInt x.length)),
           ("last_modified", .str x.lastModified.rfc3339),
           ("meta_info", x.provenance.json.tree)],
          Follows (readField innerDepth) x.learn f := by
        simp only [List.forall_mem_cons]
        exact ⟨hx.follows_length, hx.follows_lastModified,
          hx.follows_provenance, nofun⟩
      have hfields := hfs.toOption_fields hfollows ⟨none, none, none⟩
      unfold reader
      rw [hb.skipSpace_cons rfl]
      show (Json.fields _ _ _ >>= _).toOption = _
      rw [toOption_bind, hfields]
      rfl

/-- A text that says what a descriptor is written as is read as that
descriptor. -/
theorem Faithful.parse_of_saidBy (hx : x.Faithful) {text : String}
    (h : x.json.tree.IsSaidBy text) : parse text = .ok x := by
  obtain ⟨a, b, ha, hspelt, hb⟩ := h
  have hread := toOption_eq_some.mp (hx.toOption_reader ha hspelt)
  unfold parse Json.readAll
  rw [hread]
  show (Json.finished b >>= _) = _
  rw [(Json.finished_iff b).mpr hb]
  rfl

end Descriptor

end FileDepot
