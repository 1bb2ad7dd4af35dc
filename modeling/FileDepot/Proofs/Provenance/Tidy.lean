/-
What decoding leaves, read off the provenance and not off the text.

`decode_survives` asks that every number of the text is whole, those of
fields that are overwritten by a later one included. Here only what is
left counts: whatever is decoded is `Tidy`, and where its numbers are
whole it is plain and none of its further fields has a known key. So it
is read back, also where its object stands inside a longer text
(`Readable.toOption_reader`).
-/
import FileDepot.Proofs.Json.Tidy
import FileDepot.Proofs.Provenance.RoundTrip

namespace FileDepot

/-- More nesting may be allowed than there is. -/
theorem Json.Within.mono {d e : Nat} {v : Json} (h : v.Within d)
    (hle : d ≤ e) : v.Within e := by
  induction h generalizing e with
  | null => exact .null
  | bool => exact .bool
  | int => exact .int
  | float => exact .float
  | str => exact .str
  | arr _ ih =>
      obtain ⟨e, rfl⟩ := Nat.exists_eq_add_of_le' (Nat.le_of_add_left_le hle)
      exact .arr fun v hv => ih v hv (Nat.le_of_succ_le_succ hle)
  | obj _ ih =>
      obtain ⟨e, rfl⟩ := Nat.exists_eq_add_of_le' (Nat.le_of_add_left_le hle)
      exact .obj fun f hf => ih f hf (Nat.le_of_succ_le_succ hle)

namespace Provenance

open Json (Tree Spelt Blanks TidyFields fieldTrees)

variable {p : Provenance}

-- ================================================== what is decoded

/-- Further fields in order that hold tidy values and have no known
key. -/
structure TidyExtra (extra : List (String × Json)) : Prop where
  tidy : TidyFields extra
  unknown : ∀ f ∈ extra, f.1 ≠ hostKey ∧ f.1 ≠ pathKey

theorem TidyExtra.nil : TidyExtra [] := ⟨.nil, nofun⟩

/-- One more field of a key that is not known. -/
theorem TidyExtra.insertField {extra : List (String × Json)} {key : String}
    {v : Json} (h : TidyExtra extra) (hhost : key ≠ hostKey)
    (hpath : key ≠ pathKey) (hv : v.Tidy) :
    TidyExtra (Json.insertField key v extra) := by
  refine ⟨h.tidy.insertField key hv, fun f hf => ?_⟩
  rcases Json.mem_of_mem_insertField (k := f.1) (v := f.2) hf with hf | hf
  · rw [(Prod.mk.inj hf).1]
    exact ⟨hhost, hpath⟩
  · exact h.unknown f hf

/-- Reading one field keeps the further ones tidy. -/
theorem tidyExtra_of_readField {d : Nat} {seen out : Partial} {key : String}
    {cs rest : List Char} (h : TidyExtra seen.extra)
    (hread : readField d seen key cs = .ok (out, rest)) :
    TidyExtra out.extra := by
  unfold readField at hread
  split at hread
  · split at hread
    · cases hread
    obtain ⟨⟨u, a⟩, -, hread⟩ := bind_ok hread
    obtain ⟨⟨s, b⟩, -, hend⟩ := bind_ok hread
    cases hend
    exact h
  next hhost =>
  split at hread
  · split at hread
    · cases hread
    obtain ⟨⟨u, a⟩, -, hread⟩ := bind_ok hread
    obtain ⟨⟨s, b⟩, -, hend⟩ := bind_ok hread
    cases hend
    exact h
  next hpath =>
  obtain ⟨⟨u, a⟩, -, hread⟩ := bind_ok hread
  obtain ⟨⟨v, b⟩, hv, hend⟩ := bind_ok hread
  cases hend
  exact h.insertField hhost hpath (Json.tidy_of_value hv)

/-- Whatever is decoded has tidy further fields of keys that are not
known. -/
theorem tidyExtra_of_decode {raw : Option String}
    (h : decode raw = .ok p) : TidyExtra p.extra := by
  unfold decode at h
  split at h
  · cases h
    exact .nil
  split at h
  · cases h
    exact .nil
  obtain ⟨⟨q, a⟩, hread, h⟩ := bind_ok h
  obtain ⟨u, -, hend⟩ := bind_ok h
  cases hend
  unfold reader at hread
  split at hread
  · cases hread
  split at hread
  · obtain ⟨⟨seen, b⟩, hseen, hend⟩ := bind_ok hread
    cases hend
    exact Json.invariant_of_fieldsGo
      (I := fun seen : Partial => TidyExtra seen.extra)
      tidyExtra_of_readField .nil hseen
  · cases hread

-- ============================================== what is read again

/-- A provenance that can be written into a text and read back from it:
it is plain, and its further fields have keys that are not known. -/
structure Readable (p : Provenance) : Prop extends p.Plain where
  unknown : ∀ f ∈ p.extra, f.1 ≠ hostKey ∧ f.1 ≠ pathKey

/-- What is decoded can be written and read back, if its numbers are
whole. -/
theorem readable_of_decode {raw : Option String}
    (h : decode raw = .ok p) (hint : p.json.Integral) : p.Readable := by
  have htidy := tidyExtra_of_decode h
  unfold json at hint
  cases hint with
  | obj hint =>
      refine ⟨⟨htidy.tidy.1, fun f hf => ?_⟩, htidy.unknown⟩
      refine (htidy.tidy.2 f hf).plain (hint f ?_)
      exact List.mem_append_right _ hf

/-- The fields of a provenance that can be read back are read as that
provenance. -/
theorem Readable.foldlM_lift (hp : p.Readable)
    (hd : p.json.Within Json.maxDepth) :
    ((fieldTrees p.fields).foldlM lift ⟨none, none, []⟩).map Partial.result
      = some p := by
  have hback : decode (some p.encode) = .ok p :=
    (hp.toPlain.decode_encode hd).mpr (reread_eq_self.mpr hp.unknown)
  have hwithin : (Tree.obj (fieldTrees p.fields)).Within Json.maxDepth := by
    have h := hd.tree_within
    rwa [json, Json.tree] at h
  have hsaid := hp.toPlain.said
  rw [← trim_encode] at hsaid
  exact foldlM_lift_result.mpr
    ((decode_iff hsaid hp.toPlain.whole hwithin).mp hback)

/-- Wherever the object of such a provenance stands in a text, it is
read as the provenance, if its nesting is allowed there. -/
theorem Readable.toOption_reader {d : Nat} (hp : p.Readable)
    (hd : p.json.Within d) (hle : d ≤ Json.maxDepth)
    {cs a rest : List Char} (hb : Blanks cs a)
    (h : Spelt p.json.tree a rest) :
    (reader d cs).toOption = some (p, rest) := by
  have hwithin := hd.tree_within
  rw [json, Json.tree] at h hwithin
  rw [Provenance.toOption_reader hb h hp.toPlain.whole hwithin,
    hp.foldlM_lift (hd.mono hle)]
  rfl

end Provenance

end FileDepot
